import ElectionReadiness.Json.Binary64.Shortest
import ElectionReadiness.Json.Token
import ElectionReadiness.Text.Decimal

/-!
# Numbers of JSON

A numeral without point and exponent stands for a whole number as long as that fits in
64 bits; every other numeral, and minus zero, stands for a floating point number.  Of a
long numeral only so many digits count as fit in 64 bits, and the power of ten is
applied by one multiplication or division, each rounded.  A number beyond all floating
point numbers is an error.
-/

set_option autoImplicit false

namespace ElectionReadiness.Json

/-- A number. -/
inductive Number where
  | whole (value : Int)
  | float (negative : Bool) (size : Binary64)
  deriving DecidableEq, Repr

/-! ## Reading -/

/-- The largest number of 64 bits. -/
def largestWord : Nat := 18446744073709551615

/-- The size of the smallest whole number. -/
def largestNegative : Nat := 9223372036854775808

/-- Reads digits after those that gave `read`, until the number would not fit in 64
bits, and gives the digits left. -/
def gather (read : Nat) : List Char → Nat × List Char
  | [] => (read, [])
  | c :: rest =>
    let more := 10 * read + Decimal.digitValue c
    if more ≤ largestWord then gather more rest else (read, c :: rest)

/-- The highest power of ten that is applied in one step. -/
def highestPower : Nat := 308

/-- The size nearest to a power of ten. -/
def nearestPower? (power : Nat) : Option Binary64 := Binary64.ofNat? (Nat.pow 10 power)

/-- A size divided by the highest power so many times. -/
def divideByHighest? : Nat → Binary64 → Option Binary64
  | 0, size => some size
  | times + 1, size =>
    if size.isZero then some size
    else ((nearestPower? highestPower).bind size.over?).bind (divideByHighest? times)

/-- A size divided by a power of ten. -/
def divideByPower? (size : Binary64) (power : Nat) : Option Binary64 :=
  let times := (power - 1) / highestPower
  (divideByHighest? times size).bind fun rest =>
    (nearestPower? (power - times * highestPower)).bind rest.over?

/-- A size times a power of ten. -/
def applyPower? (size : Binary64) (power : Int) : Option Binary64 :=
  if power < 0 then divideByPower? size power.natAbs
  else if power ≤ highestPower then (nearestPower? power.toNat).bind size.times?
  else if size.isZero then some size
  else none

/-- The exponent of a numeral as a number. -/
def Numeral.power (numeral : Numeral) : Int :=
  match numeral.exponent with
  | none => 0
  | some (true, digits) => -(Decimal.value digits : Int)
  | some (false, digits) => Decimal.value digits

/-- The size of a numeral as a floating point number. -/
def Numeral.size? (numeral : Numeral) : Option Binary64 :=
  let (whole, wholeLeft) := gather 0 numeral.whole
  let (significand, fractionLeft) := gather whole numeral.fraction
  let places : Int := wholeLeft.length - (numeral.fraction.length - fractionLeft.length)
  (Binary64.ofNat? significand).bind fun size => applyPower? size (places + numeral.power)

/-- The whole number that a numeral stands for, if it does. -/
def Numeral.whole? (numeral : Numeral) : Option Int :=
  let value := Decimal.value numeral.whole
  if !numeral.fraction.isEmpty || numeral.exponent.isSome then none
  else if numeral.negative then
    if value = 0 || largestNegative < value then none else some (-(value : Int))
  else if value ≤ largestWord then some value
  else none

/-- The number that a numeral stands for, none if it is too large. -/
def Number.ofNumeral? (numeral : Numeral) : Option Number :=
  match numeral.whole? with
  | some value => some (.whole value)
  | none => numeral.size?.map (.float numeral.negative)

/-! ## Writing -/

/-- The lowest place of a first digit for which no exponent is written. -/
def lowestPlainPlace : Int := -5

/-- The highest place of a first digit for which no exponent is written. -/
def highestPlainPlace : Int := 15

/-- Digits without an exponent; a whole number gets a zero after the point. -/
def writePlain (digits : List Char) (exponent : Int) : List Char :=
  if 0 ≤ exponent then digits ++ List.replicate exponent.toNat '0' ++ ['.', '0']
  else
    let after := exponent.natAbs
    let filled := List.replicate (after + 1 - digits.length) '0' ++ digits
    filled.take (filled.length - after) ++ '.' :: filled.drop (filled.length - after)

/-- Digits with an exponent of at least two places. -/
def writeScientific (digits : List Char) (place : Int) : List Char :=
  let sign := if place < 0 then '-' else '+'
  let point := match digits with
    | first :: second :: others => first :: '.' :: second :: others
    | short => short
  point ++ 'e' :: sign :: Decimal.padded 2 place.natAbs

/-- A size in decimal. -/
def Binary64.write (size : Binary64) : List Char :=
  let decimal := size.shortest
  let digits := Decimal.digits decimal.digits
  let place := (digits.length : Int) - 1 + decimal.exponent
  if lowestPlainPlace ≤ place ∧ place ≤ highestPlainPlace then writePlain digits decimal.exponent
  else writeScientific digits place

/-- A number as it is written. -/
def Number.write : Number → List Char
  | .whole value => Decimal.ofInt value
  | .float negative size => if negative then '-' :: size.write else size.write

end ElectionReadiness.Json
