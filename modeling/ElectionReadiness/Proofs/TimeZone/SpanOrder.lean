import ElectionReadiness.Proofs.Calendar.CivilOrder
import ElectionReadiness.TimeZone.Timeline

/-!
# Reading the wall clock in order

The wall clock may show a time twice, and the earlier instant is taken.  Whether later
readings then always mean later instants depends on the spans of unchanged offset.  Going
on to a later span is harmless, for its instants are later.  Going back to an earlier span
is not: it happens when a reading falls short of where that span begins and is shown only
by a later one, which is impossible as long as no span begins at a reading before those at
which the spans before it begin (`StartsInOrder`).  Under that condition readings and
instants have the same order (`Timeline.resolve_lt_of_lt`).
-/

set_option autoImplicit false

namespace ElectionReadiness.TimeZone

/-- What the wall clock reads right after a change. -/
def OffsetChange.reading (change : OffsetChange) : Int := change.instant + change.offset

/-- No span begins at a reading before that at which an earlier one begins. -/
def StartsInOrder (changes : List OffsetChange) : Prop :=
  changes.Pairwise fun earlier later => earlier.reading ≤ later.reading

/-! ## One span after the other -/

namespace Timeline

theorem offsetShowing_first_nil (offset reading : Int) :
    offsetShowing none offset [] reading = some offset := rfl

theorem offsetShowing_first_cons (offset : Int) (next : OffsetChange)
    (later : List OffsetChange) (reading : Int) :
    offsetShowing none offset (next :: later) reading =
      if reading - offset < next.instant then some offset
      else offsetShowing (some next.instant) next.offset later reading := by
  simp [offsetShowing]

theorem offsetShowing_nil (start offset reading : Int) :
    offsetShowing (some start) offset [] reading =
      if start ≤ reading - offset then some offset else none := by
  simp [offsetShowing]

theorem offsetShowing_cons (start offset : Int) (next : OffsetChange)
    (later : List OffsetChange) (reading : Int) :
    offsetShowing (some start) offset (next :: later) reading =
      if start ≤ reading - offset ∧ reading - offset < next.instant then some offset
      else offsetShowing (some next.instant) next.offset later reading := by
  simp [offsetShowing]

/-- The spans from a change on show a reading no earlier than the change. -/
theorem instant_le_of_showing {change : OffsetChange} {later : List OffsetChange}
    {reading offset : Int} (inOrder : InOrder (change :: later))
    (shows : offsetShowing (some change.instant) change.offset later reading = some offset) :
    change.instant ≤ reading - offset := by
  induction later generalizing change with
  | nil =>
      rw [offsetShowing_nil] at shows
      split at shows
      · cases shows
        assumption
      · cases shows
  | cons next rest ih =>
      have parts := List.pairwise_cons.mp inOrder
      rw [offsetShowing_cons] at shows
      split at shows
      · next within =>
        cases shows
        exact within.1
      · exact Int.le_trans (parts.1 next (List.mem_cons_self ..)) (ih parts.2 shows)

/-- If their starts are in order, the spans from a change on show no reading before it. -/
theorem reading_le_of_showing {change : OffsetChange} {later : List OffsetChange}
    {reading offset : Int} (starts : StartsInOrder (change :: later))
    (shows : offsetShowing (some change.instant) change.offset later reading = some offset) :
    change.reading ≤ reading := by
  induction later generalizing change with
  | nil =>
      rw [offsetShowing_nil] at shows
      split at shows
      · simp only [OffsetChange.reading]
        omega
      · cases shows
  | cons next rest ih =>
      have parts := List.pairwise_cons.mp starts
      rw [offsetShowing_cons] at shows
      split at shows
      · simp only [OffsetChange.reading]
        omega
      · exact Int.le_trans (parts.1 next (List.mem_cons_self ..)) (ih parts.2 shows)

/-- Where the starts of spans are in order, later readings are shown at later instants. -/
theorem showing_order {change : OffsetChange} {later : List OffsetChange}
    {reading reading' offset offset' : Int} (inOrder : InOrder (change :: later))
    (starts : StartsInOrder (change :: later))
    (shows : offsetShowing (some change.instant) change.offset later reading = some offset)
    (shows' : offsetShowing (some change.instant) change.offset later reading' = some offset')
    (order : reading < reading') : reading - offset < reading' - offset' := by
  induction later generalizing change with
  | nil =>
      rw [offsetShowing_nil] at shows shows'
      split at shows <;> split at shows' <;> cases shows <;> cases shows'
      omega
  | cons next rest ih =>
      have rest_inOrder := (List.pairwise_cons.mp inOrder).2
      have rest_starts := (List.pairwise_cons.mp starts).2
      rw [offsetShowing_cons] at shows shows'
      split at shows
      · next within =>
        cases shows
        split at shows'
        · cases shows'
          omega
        · have := instant_le_of_showing rest_inOrder shows'
          omega
      · next without =>
        split at shows'
        · next within' =>
          -- The earlier reading would have to come before the start of this span, and
          -- after the start of a later one.
          have := reading_le_of_showing rest_starts shows
          have := (List.pairwise_cons.mp starts).1 next (List.mem_cons_self ..)
          cases shows'
          simp only [OffsetChange.reading] at *
          omega
        · exact ih rest_inOrder rest_starts shows shows'

/-- The same from the beginning of a timeline on. -/
theorem showing_order_first {first : Int} {changes : List OffsetChange}
    {reading reading' offset offset' : Int} (inOrder : InOrder changes)
    (starts : StartsInOrder changes)
    (shows : offsetShowing none first changes reading = some offset)
    (shows' : offsetShowing none first changes reading' = some offset')
    (order : reading < reading') : reading - offset < reading' - offset' := by
  cases changes with
  | nil =>
      rw [offsetShowing_first_nil] at shows shows'
      cases shows
      cases shows'
      omega
  | cons change later =>
      rw [offsetShowing_first_cons] at shows shows'
      split at shows
      · cases shows
        split at shows'
        · cases shows'
          omega
        · have := instant_le_of_showing inOrder shows'
          omega
      · split at shows'
        · cases shows'
          omega
        · exact showing_order inOrder starts shows shows' order

/-! ## Resolving civil times -/

/-- A resolved time has the part of a second of the civil time, and its whole seconds less
the offset of the span. -/
theorem resolve_eq_some_iff {timeline : Timeline} {civil universal : CivilTime} :
    timeline.resolve civil = some universal ↔
      ∃ offset, offsetShowing none timeline.first timeline.changes civil.wholeSeconds =
          some offset ∧
        universal.wholeSeconds = civil.wholeSeconds - offset ∧ universal.nano = civil.nano := by
  simp only [resolve, Option.bind_eq_some_iff, CivilTime.shift_eq_some_iff, Int.sub_eq_add_neg]

/-- Times with the same whole seconds keep their order whatever the offset. -/
theorem resolve_lt_of_same_second {timeline : Timeline} {earlier later : CivilTime}
    {universal universal' : CivilTime} (resolved : timeline.resolve earlier = some universal)
    (resolved' : timeline.resolve later = some universal')
    (same : earlier.wholeSeconds = later.wholeSeconds) (order : earlier < later) :
    universal < universal' := by
  obtain ⟨offset, shows, seconds, nano⟩ := resolve_eq_some_iff.mp resolved
  obtain ⟨offset', shows', seconds', nano'⟩ := resolve_eq_some_iff.mp resolved'
  rw [same, shows', Option.some.injEq] at shows
  rw [CivilTime.lt_iff] at order ⊢
  omega

/-- **Where the starts of the spans are in order, resolving keeps the order.** -/
theorem resolve_lt_of_lt {timeline : Timeline} (starts : StartsInOrder timeline.changes)
    {earlier later universal universal' : CivilTime}
    (resolved : timeline.resolve earlier = some universal)
    (resolved' : timeline.resolve later = some universal') (order : earlier < later) :
    universal < universal' := by
  rcases Int.lt_or_eq_of_le (CivilTime.wholeSeconds_le_of_le (le_of_lt order)) with
    before | same
  · obtain ⟨offset, shows, seconds, _⟩ := resolve_eq_some_iff.mp resolved
    obtain ⟨offset', shows', seconds', _⟩ := resolve_eq_some_iff.mp resolved'
    have := showing_order_first timeline.inOrder starts shows shows' before
    rw [CivilTime.lt_iff]
    omega
  · exact resolve_lt_of_same_second resolved resolved' same order

end Timeline

end ElectionReadiness.TimeZone
