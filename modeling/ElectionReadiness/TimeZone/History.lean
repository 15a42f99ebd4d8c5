import ElectionReadiness.TimeZone.YearlyChange
import ElectionReadiness.TimeZone.Timeline

/-!
# Histories of zones

The history of a zone is a list of regimes, each with an offset of standard time
and a way to keep summer time: a fixed saving or a set of yearly rules.  Every
regime but the last ends at a reading of the wall clock.  `ZoneHistory.timeline`
follows the regimes one after the other: a regime starts with the saving that
its rules had last set, and then makes the changes they set until it ends.
-/

set_option autoImplicit false

namespace ElectionReadiness.TimeZone

/-- How summer time is kept. -/
inductive Saving
  /-- The wall clock is always so many minutes ahead. -/
  | fixed (minutes : Int)
  /-- The wall clock follows yearly rules. -/
  | following (rules : List YearlyChange)

/-- An offset of standard time and a way to keep summer time. -/
structure Regime where
  /-- Seconds ahead of universal time. -/
  offset : Int
  saving : Saving

/-- A reading of the wall clock. -/
structure WallTime where
  year : Nat
  month : Date.Month
  day : MonthDay
  seconds : Int

/-- The regimes of a zone: those that have ended, with their ends, and the last. -/
structure ZoneHistory where
  past : List (Regime × WallTime)
  present : Regime

/-- The reading in seconds from the start of 1970. -/
def WallTime.reading (wall : WallTime) : Int :=
  86400 * wall.day.dayNumber wall.year wall.month.number + wall.seconds

/-! ## Following the rules of a regime -/

/-- A saving that is in force from an instant on. -/
structure SavingChange where
  instant : Int
  saving : Int

/-- The changes that occurrences make, from a saving in force, until the wall
clock reads `stop`. -/
def followOccurrences (offset : Int) (stop : Option Int) :
    Int → List Occurrence → List SavingChange
  | _, [] => []
  | saving, occurrence :: rest =>
    let instant := occurrence.instant offset saving
    let isOver := match stop with
      | none => false
      | some reading => decide (reading - offset - saving ≤ instant)
    if isOver then []
    else ⟨instant, occurrence.saving⟩ :: followOccurrences offset stop occurrence.saving rest

namespace Regime

/-- All changes that a regime's rules make, from long before it starts. -/
def savingChanges (regime : Regime) (stop : Option WallTime) : List SavingChange :=
  match regime.saving with
  | .fixed _ => []
  | .following rules =>
    followOccurrences regime.offset (stop.map (·.reading)) 0
      (occurrences rules ((stop.map (·.year)).getD lastRuleYear))

/-- The saving before any change. -/
def initialSaving (regime : Regime) : Int :=
  match regime.saving with
  | .fixed minutes => 60 * minutes
  | .following _ => 0

/-- The saving after some changes. -/
def savingAfter (regime : Regime) (changes : List SavingChange) : Int :=
  (changes.getLast?.map (·.saving)).getD regime.initialSaving

/-- The instant at which a regime ends. -/
def endInstant (regime : Regime) (stop : WallTime) : Int :=
  stop.reading - regime.offset - regime.savingAfter (regime.savingChanges (some stop))

/-- A change of saving as a change of offset. -/
def offsetChange (regime : Regime) (change : SavingChange) : OffsetChange :=
  ⟨change.instant, regime.offset + change.saving⟩

/-- The changes of offset that a regime brings when it starts at an instant. -/
def offsetChanges (regime : Regime) (start : Int) (stop : Option WallTime) :
    List OffsetChange :=
  let changes := regime.savingChanges stop
  let before := changes.takeWhile (·.instant ≤ start)
  let after := changes.dropWhile (·.instant ≤ start)
  ⟨start, regime.offset + regime.savingAfter before⟩ :: after.map regime.offsetChange

end Regime

/-! ## The timeline of a history -/

/-- The changes of offset of the regimes from an instant on. -/
def laterChanges (start : Int) : List (Regime × WallTime) → Regime → List OffsetChange
  | [], present => present.offsetChanges start none
  | (regime, stop) :: rest, present =>
    regime.offsetChanges start (some stop) ++ laterChanges (regime.endInstant stop) rest present

namespace ZoneHistory

/-- The offset of a zone before any change. -/
def firstOffset (history : ZoneHistory) : Int :=
  match history.past with
  | [] => history.present.offset + history.present.initialSaving
  | (regime, _) :: _ => regime.offset + regime.initialSaving

/-- All changes of offset of a zone. -/
def offsetChanges (history : ZoneHistory) : List OffsetChange :=
  match history.past with
  | [] => (history.present.savingChanges none).map history.present.offsetChange
  | (regime, stop) :: rest =>
    (regime.savingChanges (some stop)).map regime.offsetChange
      ++ laterChanges (regime.endInstant stop) rest history.present

/-- The offsets of a zone at all times. -/
def timeline (history : ZoneHistory) : Timeline :=
  Timeline.ofChanges history.firstOffset history.offsetChanges

/-- A zone that has kept one offset at all times. -/
def constant (offset : Int) : ZoneHistory := ⟨[], ⟨offset, .fixed 0⟩⟩

end ZoneHistory

end ElectionReadiness.TimeZone
