import ElectionReadiness.Calendar.Date

/-!
# Yearly changes of the clock

A place keeps summer time by rules that say, for a run of years, on which day and
at which time of day the clock is put forward or back, and by how much it is
then ahead of standard time.  The time of day is read on the wall clock, on the
standard clock or on the universal clock.  `occurrences` lists what a set of
rules does over a run of years, in the order of the clock readings.
-/

set_option autoImplicit false

namespace ElectionReadiness.TimeZone

/-- Hours, minutes and seconds, in seconds. -/
def hms (hours minutes seconds : Nat) : Int := (3600 * hours + 60 * minutes + seconds : Nat)

/-- An offset ahead of universal time. -/
def east (hours minutes seconds : Nat) : Int := hms hours minutes seconds

/-- An offset behind universal time. -/
def west (hours minutes seconds : Nat) : Int := -hms hours minutes seconds

/-! ## Rules -/

/-- The years in which a rule holds. -/
inductive Years
  | only (year : Nat)
  | between (first last : Nat)
  | since (first : Nat)
  deriving DecidableEq, Repr

/-- A rule holds in a year. -/
def Years.has : Years → Nat → Bool
  | .only year, y => y == year
  | .between first last, y => first ≤ y && y ≤ last
  | .since first, y => first ≤ y

/-- A day of a month that is not named yet. -/
inductive MonthDay
  | on (day : Nat)
  | last (weekday : Date.Weekday)
  | onOrAfter (weekday : Date.Weekday) (day : Nat)
  | onOrBefore (weekday : Date.Weekday) (day : Nat)
  deriving DecidableEq, Repr

/-- How many days lie between the weekday of a day number and the next day that
is `weekday`. -/
def daysUntil (weekday : Date.Weekday) (number : Int) : Nat :=
  (weekday.index + 7 - Date.weekdayIndex number) % 7

/-- How many days lie between the weekday of a day number and the last day before
it that is `weekday`. -/
def daysSince (weekday : Date.Weekday) (number : Int) : Nat :=
  (Date.weekdayIndex number + 7 - weekday.index) % 7

/-- The day number that a day of a month has in a year. -/
def MonthDay.dayNumber (year : Int) (month : Nat) : MonthDay → Int
  | .on day => (Date.mk year month day).dayNumber
  | .last weekday =>
    let final := (Date.mk year month (Date.daysInMonth year month)).dayNumber
    final - daysSince weekday final
  | .onOrAfter weekday day =>
    let from_ := (Date.mk year month day).dayNumber
    from_ + daysUntil weekday from_
  | .onOrBefore weekday day =>
    let until_ := (Date.mk year month day).dayNumber
    until_ - daysSince weekday until_

/-- The clock that a time of day is read on. -/
inductive Clock
  | wall | standard | universal
  deriving DecidableEq, Repr

/-- Hours and minutes on one of the clocks. -/
inductive ClockTime
  | wall (hours minutes : Nat)
  | standard (hours minutes : Nat)
  | universal (hours minutes : Nat)
  deriving DecidableEq, Repr

/-- The clock of a time of day. -/
def ClockTime.clock : ClockTime → Clock
  | .wall _ _ => .wall
  | .standard _ _ => .standard
  | .universal _ _ => .universal

/-- The seconds of a time of day. -/
def ClockTime.seconds : ClockTime → Int
  | .wall hours minutes | .standard hours minutes | .universal hours minutes => hms hours minutes 0

/-- A change of the clock that comes round every year. -/
structure YearlyChange where
  years : Years
  month : Date.Month
  day : MonthDay
  time : ClockTime
  /-- The minutes that the wall clock is then ahead of the standard clock. -/
  saving : Int
  deriving DecidableEq, Repr

/-! ## What the rules do year by year -/

/-- A change of the clock in one year. -/
structure Occurrence where
  /-- What the clock reads, in seconds from the start of 1970. -/
  reading : Int
  clock : Clock
  /-- The seconds that the wall clock is then ahead of the standard clock. -/
  saving : Int
  deriving DecidableEq, Repr

/-- The universal time of a clock reading, by the offset of standard time and the
saving in force until then. -/
def Occurrence.instant (occurrence : Occurrence) (offset saving : Int) : Int :=
  match occurrence.clock with
  | .wall => occurrence.reading - offset - saving
  | .standard => occurrence.reading - offset
  | .universal => occurrence.reading

/-- What a rule does in a year. -/
def YearlyChange.inYear (change : YearlyChange) (year : Nat) : Occurrence where
  reading := 86400 * change.day.dayNumber year change.month.number + change.time.seconds
  clock := change.time.clock
  saving := 60 * change.saving

/-- Puts an occurrence before the first that reads later or the same. -/
def insertOccurrence (occurrence : Occurrence) : List Occurrence → List Occurrence
  | [] => [occurrence]
  | first :: rest =>
    if occurrence.reading ≤ first.reading then occurrence :: first :: rest
    else first :: insertOccurrence occurrence rest

/-- What a set of rules does in a year, in the order of the clock readings. -/
def occurrencesIn (rules : List YearlyChange) (year : Nat) : List Occurrence :=
  (rules.filter (·.years.has year)).foldr (fun change => insertOccurrence (change.inYear year)) []

/-- The first year for which rules are followed. -/
def firstRuleYear : Nat := 1800

/-- The last year for which rules are followed. -/
def lastRuleYear : Nat := 2099

/-- What a set of rules does from the first rule year up to a year. -/
def occurrences (rules : List YearlyChange) (upTo : Nat) : List Occurrence :=
  (List.range (min upTo lastRuleYear + 1 - firstRuleYear)).flatMap fun passed =>
    occurrencesIn rules (firstRuleYear + passed)

end ElectionReadiness.TimeZone
