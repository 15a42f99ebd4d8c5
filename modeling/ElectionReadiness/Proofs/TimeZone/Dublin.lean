import ElectionReadiness.Proofs.TimeZone.SpanOrder
import ElectionReadiness.TimeZone.YearlyChange

/-!
# The night the clocks of Dublin were put back

On 1 October 1916 the summer time of Dublin ended, and with it Dublin's own time, which was
25 minutes and 21 seconds behind that of Greenwich.  The clocks are listed as going forward
to a full hour ahead of Greenwich at 02:00:00 and back to Greenwich itself 2079 seconds
later.  So they skip from 02:00:00 to 02:25:21, run on to 03:00:00, and go back to 02:00:00.

The readings from 02:00:00 to 02:25:21 are then shown for the first time after those from
02:25:21 to 03:00:00.  A timeline that begins so, and whose spans start in order afterwards,
keeps the order of all other pairs of readings and reverses the order of these
(`Dublin.resolve_order`).
-/

set_option autoImplicit false

namespace ElectionReadiness.TimeZone

namespace Dublin

/-! ## The night of 1 October 1916 -/

/-- 02:00:00, when the clocks go forward, and to which they are put back. -/
def forwardFrom : Int := 86400 * (Date.mk 1916 10 1).dayNumber + hms 2 0 0

/-- 02:25:21, to which the clocks go forward. -/
def forwardTo : Int := 86400 * (Date.mk 1916 10 1).dayNumber + hms 2 25 21

/-- 03:00:00, when the clocks are put back. -/
def backFrom : Int := 86400 * (Date.mk 1916 10 1).dayNumber + hms 3 0 0

theorem forwardFrom_eq : forwardFrom = -1680472800 := by decide

theorem forwardTo_eq : forwardTo = -1680471279 := by decide

theorem backFrom_eq : backFrom = -1680469200 := by decide

/-- The earlier time is shown first after the clocks were put back, the later one before. -/
def Reversed (earlier later : CivilTime) : Prop :=
  (forwardFrom ≤ earlier.wholeSeconds ∧ earlier.wholeSeconds < forwardTo) ∧
    forwardTo ≤ later.wholeSeconds ∧ later.wholeSeconds < backFrom

instance (earlier later : CivilTime) : Decidable (Reversed earlier later) :=
  inferInstanceAs (Decidable ((_ ∧ _) ∧ _ ∧ _))

/-! ## A timeline with that night -/

/-- The offset of Dublin's own time. -/
def meanOffset : Int := west 0 25 21

/-- The changes up to the one that makes the clocks go forward. -/
def earlyChanges : List OffsetChange :=
  [⟨-2821649679, west 0 25 21⟩, ⟨-1691962479, east 0 34 39⟩, ⟨-1680474879, east 1 0 0⟩]

/-- The change by which the clocks are put back. -/
def turn : OffsetChange := ⟨-1680472800, east 0 0 0⟩

theorem turn_reading : turn.reading = -1680472800 := by decide

variable {later : List OffsetChange} {reading reading' offset offset' : Int}

/-- The span that shows a reading: one before the clocks go forward, the one until they are
put back, or one after that. -/
theorem showing_of_turn (inOrder : InOrder (turn :: later)) (starts : StartsInOrder (turn :: later))
    (shows : Timeline.offsetShowing none meanOffset (earlyChanges ++ turn :: later) reading =
      some offset) :
    (offset = -1521 ∧ reading - offset < -1691962479 ∨
      offset = 2079 ∧ -1691962479 ≤ reading - offset ∧ reading < forwardFrom ∨
      offset = 3600 ∧ forwardTo ≤ reading ∧ reading < backFrom) ∨
    (¬(forwardTo ≤ reading ∧ reading < backFrom) ∧ forwardFrom ≤ reading ∧
        -1680472800 ≤ reading - offset) ∧
      Timeline.offsetShowing (some turn.instant) turn.offset later reading = some offset := by
  have mean : west 0 25 21 = -1521 := by decide
  have summer : east 0 34 39 = 2079 := by decide
  have hour : east 1 0 0 = 3600 := by decide
  have turned : turn.instant = -1680472800 := rfl
  simp only [meanOffset, earlyChanges, List.cons_append, List.nil_append,
    Timeline.offsetShowing_first_cons, Timeline.offsetShowing_cons, mean, summer, hour] at shows
  rw [forwardFrom_eq, forwardTo_eq, backFrom_eq]
  split at shows
  · cases shows
    omega
  split at shows
  · cases shows
    omega
  split at shows
  · cases shows
    omega
  split at shows
  · cases shows
    omega
  · have instant_ge := Timeline.instant_le_of_showing inOrder shows
    have reading_ge := Timeline.reading_le_of_showing starts shows
    rw [turn_reading] at reading_ge
    refine .inr ⟨?_, shows⟩
    omega

/-- Two readings are shown in their order, unless the earlier is shown first after the clocks
were put back and the later before. -/
theorem showing_order (inOrder : InOrder (turn :: later)) (starts : StartsInOrder (turn :: later))
    (shows : Timeline.offsetShowing none meanOffset (earlyChanges ++ turn :: later) reading =
      some offset)
    (shows' : Timeline.offsetShowing none meanOffset (earlyChanges ++ turn :: later) reading' =
      some offset')
    (order : reading < reading') :
    ((forwardFrom ≤ reading ∧ reading < forwardTo) ∧ forwardTo ≤ reading' ∧ reading' < backFrom →
        reading' - offset' < reading - offset) ∧
      (¬((forwardFrom ≤ reading ∧ reading < forwardTo) ∧
          forwardTo ≤ reading' ∧ reading' < backFrom) →
        reading - offset < reading' - offset') := by
  have forward := forwardFrom_eq
  have joined := forwardTo_eq
  have back := backFrom_eq
  rcases showing_of_turn inOrder starts shows with before | ⟨after, shown⟩
  · rcases showing_of_turn inOrder starts shows' with before' | ⟨after', shown'⟩
    · omega
    · omega
  · rcases showing_of_turn inOrder starts shows' with before' | ⟨after', shown'⟩
    · omega
    · have kept := Timeline.showing_order inOrder starts shown shown' order
      omega

/-- **A timeline with that night reverses the order of the times of that night, and keeps the
order of all others.** -/
theorem resolve_order {timeline : Timeline} (mean : timeline.first = meanOffset)
    (turns : timeline.changes = earlyChanges ++ turn :: later)
    (starts : StartsInOrder (turn :: later)) {earlier after universal universal' : CivilTime}
    (resolved : timeline.resolve earlier = some universal)
    (resolved' : timeline.resolve after = some universal') (order : earlier < after) :
    (Reversed earlier after → universal' < universal) ∧
      (¬Reversed earlier after → universal < universal') := by
  have inOrder : InOrder (turn :: later) := by
    have all := timeline.inOrder
    rw [turns, InOrder, List.pairwise_append] at all
    exact all.2.1
  rcases Int.lt_or_eq_of_le (CivilTime.wholeSeconds_le_of_le (le_of_lt order)) with
    before | same
  · obtain ⟨offset, shows, seconds, _⟩ := Timeline.resolve_eq_some_iff.mp resolved
    obtain ⟨offset', shows', seconds', _⟩ := Timeline.resolve_eq_some_iff.mp resolved'
    rw [mean, turns] at shows shows'
    have shown := showing_order inOrder starts shows shows' before
    rw [← seconds, ← seconds'] at shown
    exact ⟨fun reversed => CivilTime.lt_iff.mpr (.inl (shown.1 reversed)),
      fun kept => CivilTime.lt_iff.mpr (.inl (shown.2 kept))⟩
  · refine ⟨?_, fun _ => Timeline.resolve_lt_of_same_second resolved resolved' same order⟩
    rintro ⟨⟨_, early⟩, late, _⟩
    omega

end Dublin

end ElectionReadiness.TimeZone
