import ElectionReadiness.Calendar.CivilTime
import ElectionReadiness.Text.Decimal

/-!
# Writing civil times

A time is written as a date and a time of day to the second.  Its fraction is
left out when it is zero, and otherwise takes the fewest of three, six or nine
places.  Years outside 0 to 9999 carry a sign.  A leap second shows as the
second after the one it extends.  `CivilTime.text` puts a blank between the date
and the time of day, `CivilTime.universalText` the letter and the offset of
universal time.
-/

set_option autoImplicit false

namespace ElectionReadiness.CivilTime

/-- A year in at least four places, with a sign outside 0 to 9999. -/
def writeYear (year : Int) : List Char :=
  if 0 ≤ year ∧ year ≤ 9999 then Decimal.padded 4 year.toNat
  else (if year < 0 then '-' else '+') :: Decimal.padded 4 year.natAbs

/-- A date, its parts joined by hyphens. -/
def writeDate (date : Date) : List Char :=
  writeYear date.year ++ '-' :: Decimal.padded 2 date.month ++ '-' :: Decimal.padded 2 date.day

/-- The fraction of a second, in the fewest of no, three, six or nine places. -/
def writeFraction (nano : Nat) : List Char :=
  if nano = 0 then []
  else if nano % 1000000 = 0 then '.' :: Decimal.padded 3 (nano / 1000000)
  else if nano % 1000 = 0 then '.' :: Decimal.padded 6 (nano / 1000)
  else '.' :: Decimal.padded 9 nano

/-- A time of day; within a leap second the seconds show one more. -/
def writeTimeOfDay (second nano : Nat) : List Char :=
  let shown := if 1000000000 ≤ nano then second % 60 + 1 else second % 60
  Decimal.padded 2 (second / 3600) ++ ':' :: Decimal.padded 2 (second / 60 % 60)
    ++ ':' :: Decimal.padded 2 shown ++ writeFraction (nano % 1000000000)

/-- A date, a separator and a time of day. -/
def write (separator : Char) (time : CivilTime) : List Char :=
  writeDate (Date.ofDayNumber time.day) ++ separator :: writeTimeOfDay time.second time.nano

/-- A civil time as messages show it. -/
def text (time : CivilTime) : String := String.ofList (time.write ' ')

/-- A universal time, with its offset from universal time. -/
def universalText (time : CivilTime) : String :=
  String.ofList (time.write 'T' ++ "+00:00".toList)

end ElectionReadiness.CivilTime
