import ElectionReadiness.Calendar.CivilTime

/-!
# Timelines of offsets

A timeline gives the offset of a place at every instant: one before the first
change, and after each change the one it brings, the last for ever.  Its changes
are in the order of time.

`Timeline.ofChanges` makes a timeline of changes as rules give them.  There a
change may be shadowed: when the next change comes before the wall clock has
passed what it showed at the change, the two count as one.

`Timeline.resolve` reads a civil time as a universal time.  It goes through the
spans of unchanged offset in order and takes the first in which the wall clock
shows the time, so that a time shown twice means the earlier instant and a time
never shown means none.
-/

set_option autoImplicit false

namespace ElectionReadiness.TimeZone

/-- From an instant on, in seconds from the start of 1970, another offset. -/
structure OffsetChange where
  instant : Int
  offset : Int
  deriving DecidableEq, Repr

/-- In the order of time. -/
def InOrder (changes : List OffsetChange) : Prop :=
  changes.Pairwise fun earlier later => earlier.instant ≤ later.instant

/-- The offsets of a place at all times. -/
structure Timeline where
  /-- The offset before the first change. -/
  first : Int
  changes : List OffsetChange
  inOrder : InOrder changes

/-! ## Ordering changes -/

/-- Puts a change before the first that is as late or later. -/
def insertChange (change : OffsetChange) : List OffsetChange → List OffsetChange
  | [] => [change]
  | next :: rest =>
    if change.instant ≤ next.instant then change :: next :: rest
    else next :: insertChange change rest

/-- Puts changes in the order of time. -/
def sortChanges (changes : List OffsetChange) : List OffsetChange :=
  changes.foldr insertChange []

theorem mem_insertChange {change other : OffsetChange} {changes : List OffsetChange} :
    other ∈ insertChange change changes ↔ other = change ∨ other ∈ changes := by
  induction changes with
  | nil => simp [insertChange]
  | cons next rest ih =>
    simp only [insertChange]
    split
    · simp
    · simp only [List.mem_cons, ih]
      constructor <;> rintro (h | h | h) <;> simp [h]

theorem inOrder_insertChange (change : OffsetChange) {changes : List OffsetChange}
    (h : InOrder changes) : InOrder (insertChange change changes) := by
  induction changes with
  | nil => simp [insertChange, InOrder]
  | cons next rest ih =>
    have parts := List.pairwise_cons.mp h
    simp only [insertChange]
    split
    · next early =>
      refine List.pairwise_cons.mpr ⟨?_, h⟩
      intro other mem
      rcases List.mem_cons.mp mem with rfl | mem
      · exact early
      · exact Int.le_trans early (parts.1 other mem)
    · next late =>
      refine List.pairwise_cons.mpr ⟨?_, ih parts.2⟩
      intro other mem
      rcases mem_insertChange.mp mem with rfl | mem
      · omega
      · exact parts.1 other mem

theorem inOrder_sortChanges (changes : List OffsetChange) : InOrder (sortChanges changes) := by
  induction changes with
  | nil => simp [sortChanges, InOrder]
  | cons change rest ih => exact inOrder_insertChange change ih

/-! ## Shadowed changes -/

/-- Takes `change`, made when the offset was `before`, together with those that
shadow it. -/
def settleFrom (before : Int) (change : OffsetChange) : List OffsetChange → List OffsetChange
  | [] => [change]
  | next :: rest =>
    if next.instant + change.offset ≤ change.instant + before then
      settleFrom before ⟨change.instant, next.offset⟩ rest
    else change :: settleFrom change.offset next rest

/-- Replaces every change that the next one shadows. -/
def settle (first : Int) : List OffsetChange → List OffsetChange
  | [] => []
  | change :: rest => settleFrom first change rest

theorem le_of_mem_settleFrom {bound before : Int} {change : OffsetChange}
    {rest : List OffsetChange} (ge : bound ≤ change.instant)
    (all : ∀ other ∈ rest, bound ≤ other.instant) :
    ∀ other ∈ settleFrom before change rest, bound ≤ other.instant := by
  induction rest generalizing before change with
  | nil =>
    intro other mem
    simp only [settleFrom, List.mem_singleton] at mem
    subst mem
    exact ge
  | cons next rest ih =>
    simp only [List.mem_cons, forall_eq_or_imp] at all
    simp only [settleFrom]
    split
    · exact ih ge all.2
    · intro other mem
      rcases List.mem_cons.mp mem with rfl | mem
      · exact ge
      · exact ih all.1 all.2 other mem

theorem inOrder_settleFrom {before : Int} {change : OffsetChange} {rest : List OffsetChange}
    (h : InOrder (change :: rest)) : InOrder (settleFrom before change rest) := by
  induction rest generalizing before change with
  | nil => simp [settleFrom, InOrder]
  | cons next rest ih =>
    have parts := List.pairwise_cons.mp h
    have later := List.pairwise_cons.mp parts.2
    simp only [settleFrom]
    split
    · exact ih (List.pairwise_cons.mpr
        ⟨fun other mem => parts.1 other (List.mem_cons_of_mem _ mem), later.2⟩)
    · refine List.pairwise_cons.mpr ⟨?_, ih parts.2⟩
      exact le_of_mem_settleFrom (parts.1 next (List.mem_cons_self ..))
        (fun other mem => parts.1 other (List.mem_cons_of_mem _ mem))

theorem inOrder_settle {first : Int} {changes : List OffsetChange} (h : InOrder changes) :
    InOrder (settle first changes) := by
  cases changes with
  | nil => exact h
  | cons change rest => exact inOrder_settleFrom h

/-! ## Timelines -/

namespace Timeline

/-- The timeline of a place that starts at an offset and changes it so. -/
def ofChanges (first : Int) (changes : List OffsetChange) : Timeline where
  first := first
  changes := settle first (sortChanges changes)
  inOrder := inOrder_settle (inOrder_sortChanges changes)

/-- The offset at an instant, after the changes up to it. -/
def offsetFrom : Int → List OffsetChange → Int → Int
  | offset, [], _ => offset
  | offset, change :: rest, instant =>
    if change.instant ≤ instant then offsetFrom change.offset rest instant else offset

/-- The offset at an instant. -/
def offsetAt (timeline : Timeline) (instant : Int) : Int :=
  offsetFrom timeline.first timeline.changes instant

/-- What the wall clock shows at a universal time. -/
def localTime (timeline : Timeline) (universal : CivilTime) : Option CivilTime :=
  universal.shift (timeline.offsetAt universal.wholeSeconds)

/-- The offset of the first span in which the wall clock shows a reading, among
the spans from the one that begins at `begins`. -/
def offsetShowing : Option Int → Int → List OffsetChange → Int → Option Int
  | begins, offset, changes, reading =>
    let instant := reading - offset
    let hasBegun := match begins with
      | none => true
      | some start => decide (start ≤ instant)
    match changes with
    | [] => if hasBegun then some offset else none
    | change :: rest =>
      if hasBegun && decide (instant < change.instant) then some offset
      else offsetShowing (some change.instant) change.offset rest reading

/-- The earliest universal time at which the wall clock shows a civil time. -/
def resolve (timeline : Timeline) (civil : CivilTime) : Option CivilTime :=
  (offsetShowing none timeline.first timeline.changes civil.wholeSeconds).bind fun offset =>
    civil.shift (-offset)

end Timeline

end ElectionReadiness.TimeZone
