import ElectionReadiness.Calendar.CivilTime
import ElectionReadiness.Text.Scan

/-!
# Reading civil times

A civil time is written as a date, as a date and a time to the minute, or as a
date and a time to the second with an optional fraction.  Blanks may surround
the text.  Inside it they may stand before any number, and in the form with
seconds also before the mark that follows a number, though not between the
seconds and their fraction.  `CivilTime.read?` tries the three layouts in turn.
-/

set_option autoImplicit false

namespace ElectionReadiness.CivilTime

/-- The time with these fields; second 60 is the leap second after second 59 of
any minute. -/
def ofFields? (date : Date) (hour minute second nano : Nat) : Option CivilTime :=
  if date.IsValid ∧ hour < 24 ∧ minute < 60 ∧ second ≤ 60 then
    let minutes := 60 * hour + minute
    if second = 60 then ofParts? date.dayNumber (60 * minutes + 59) (nano + 1000000000)
    else ofParts? date.dayNumber (60 * minutes + second) nano
  else none

/-! ## The parts of a written time -/

open Scan

/-- A year: up to four digits, or a sign and any number of digits. -/
def scanYear : Scan Int
  | '-' :: rest => (longNumber rest).map fun (year, left) => (-(year : Int), left)
  | '+' :: rest => (longNumber rest).map fun (year, left) => ((year : Int), left)
  | text => (number 4 text).map fun (year, left) => ((year : Int), left)

/-- A number of at most two digits, blanks before it. -/
def scanPair : Scan Nat := do
  blanks
  number 2

/-- The nanoseconds of a fraction, of which nine digits count. -/
def fractionNanos (written : List Char) : Nat :=
  let counted := written.take 9
  Decimal.value counted * Nat.pow 10 (9 - counted.length)

/-- A point and at least one digit, or nothing. -/
def scanFraction : Scan Nat
  | '.' :: rest =>
    match rest.takeWhile Decimal.isDigit with
    | [] => none
    | written => some (fractionNanos written, rest.dropWhile Decimal.isDigit)
  | text => some (0, text)

/-! ## The layouts -/

/-- The layout `Y-M-DTh:m:s` with an optional fraction. -/
def secondLayout : Scan (Option CivilTime) := do
  blanks
  let year ← scanYear
  blanks
  mark '-'
  let month ← scanPair
  blanks
  mark '-'
  let day ← scanPair
  blanks
  mark 'T'
  let hour ← scanPair
  blanks
  mark ':'
  let minute ← scanPair
  blanks
  mark ':'
  let second ← scanPair
  let nano ← scanFraction
  blanks
  pure (ofFields? ⟨year, month, day⟩ hour minute second nano)

/-- The layout `Y-M-DTh:m`. -/
def minuteLayout : Scan (Option CivilTime) := do
  blanks
  let year ← scanYear
  mark '-'
  let month ← scanPair
  mark '-'
  let day ← scanPair
  mark 'T'
  let hour ← scanPair
  mark ':'
  let minute ← scanPair
  pure (ofFields? ⟨year, month, day⟩ hour minute 0 0)

/-- The layout `Y-M-D`, which means midnight. -/
def dayLayout : Scan (Option CivilTime) := do
  blanks
  let year ← scanYear
  mark '-'
  let month ← scanPair
  mark '-'
  let day ← scanPair
  pure (ofFields? ⟨year, month, day⟩ 0 0 0 0)

/-- Reads a whole text in one layout. -/
def readAs? (layout : Scan (Option CivilTime)) (text : List Char) : Option CivilTime :=
  (layout.all? text).bind id

/-- Reads a civil time in the first layout that fits. -/
def read? (text : String) : Option CivilTime :=
  let trimmed := Text.trim text.toList
  (readAs? secondLayout trimmed).or
    ((readAs? minuteLayout trimmed).or (readAs? dayLayout trimmed))

end ElectionReadiness.CivilTime
