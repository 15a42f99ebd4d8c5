/-!
# Dates of the Gregorian calendar

A date is a year, a month and a day of the calendar run backwards and forwards
without end; a day number counts days from 1 January 1970.  `Date.dayNumber` and
`Date.ofDayNumber` go back and forth between the two, the second by taking off
whole cycles of four hundred, one hundred, four and one years.
-/

set_option autoImplicit false

namespace ElectionReadiness

/-- A date as it is written. -/
structure Date where
  year : Int
  month : Nat
  day : Nat
  deriving DecidableEq, Repr

namespace Date

/-! ## The calendar -/

/-- Every fourth year, but of the hundreds only every fourth. -/
def isLeapYear (year : Int) : Bool :=
  year % 4 == 0 && (year % 100 != 0 || year % 400 == 0)

/-- The lengths of the months, January first. -/
def monthLengths (leap : Bool) : List Nat :=
  [31, if leap then 29 else 28, 31, 30, 31, 30, 31, 31, 30, 31, 30, 31]

/-- How many days a month has, none for a number that is no month. -/
def daysInMonth (year : Int) (month : Nat) : Nat :=
  if month = 0 then 0 else (monthLengths (isLeapYear year)).getD (month - 1) 0

/-- The first year that a time may lie in. -/
def firstYear : Int := -262143

/-- The last year that a time may lie in. -/
def lastYear : Int := 262142

/-- A day that the calendar has, in a year that a time may lie in. -/
def IsValid (date : Date) : Prop :=
  firstYear ≤ date.year ∧ date.year ≤ lastYear ∧
    1 ≤ date.day ∧ date.day ≤ daysInMonth date.year date.month

instance (date : Date) : Decidable date.IsValid :=
  inferInstanceAs (Decidable (_ ∧ _ ∧ _ ∧ _))

/-! ## Day numbers -/

/-- The day number of 1 January of a year. -/
def yearStart (year : Int) : Int :=
  let passed := year - 1
  365 * passed + passed / 4 - passed / 100 + passed / 400 - 719162

/-- How many days of the year come before a month. -/
def daysBeforeMonth (leap : Bool) (month : Nat) : Nat :=
  ((monthLengths leap).take (month - 1)).foldr (· + ·) 0

/-- Days from 1 January 1970. -/
def dayNumber (date : Date) : Int :=
  yearStart date.year + daysBeforeMonth (isLeapYear date.year) date.month + date.day - 1

/-- Finds the month and the day of the month, `rest` days after the start of
month `month`. -/
def placeInMonths : Nat → List Nat → Nat → Nat × Nat
  | month, [], rest => (month, rest + 1)
  | month, length :: lengths, rest =>
    if rest < length then (month, rest + 1) else placeInMonths (month + 1) lengths (rest - length)

/-- The date of a day number. -/
def ofDayNumber (number : Int) : Date :=
  let fromYearOne := number + 719162
  let cycles := fromYearOne / 146097
  let inCycle := (fromYearOne % 146097).toNat
  let centuries := min (inCycle / 36524) 3
  let inCentury := inCycle - centuries * 36524
  let fours := inCentury / 1461
  let inFour := inCentury % 1461
  let ones := min (inFour / 365) 3
  let inYear := inFour - ones * 365
  let year := 400 * cycles + 100 * centuries + 4 * fours + ones + 1
  let place := placeInMonths 1 (monthLengths (isLeapYear year)) inYear
  ⟨year, place.1, place.2⟩

/-- The day number of the first day that a time may lie on. -/
def firstDay : Int := yearStart firstYear

/-- The day number of the last day that a time may lie on. -/
def lastDay : Int := yearStart (lastYear + 1) - 1

/-! ## Weekdays -/

/-- The days of the week. -/
inductive Weekday
  | monday | tuesday | wednesday | thursday | friday | saturday | sunday
  deriving DecidableEq, Repr

/-- The place of a weekday in the week, which starts on Monday. -/
def Weekday.index : Weekday → Nat
  | .monday => 0
  | .tuesday => 1
  | .wednesday => 2
  | .thursday => 3
  | .friday => 4
  | .saturday => 5
  | .sunday => 6

/-- The place in the week of a day number; 1 January 1970 was a Thursday. -/
def weekdayIndex (number : Int) : Nat := ((number + 3) % 7).toNat

/-- The months. -/
inductive Month
  | january | february | march | april | may | june
  | july | august | september | october | november | december
  deriving DecidableEq, Repr

/-- The number of a month. -/
def Month.number : Month → Nat
  | .january => 1
  | .february => 2
  | .march => 3
  | .april => 4
  | .may => 5
  | .june => 6
  | .july => 7
  | .august => 8
  | .september => 9
  | .october => 10
  | .november => 11
  | .december => 12

end Date

end ElectionReadiness
