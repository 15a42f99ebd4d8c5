import ElectionReadiness.Json.Binary64
import ElectionReadiness.Text.Decimal

/-!
# The shortest decimal of a size

A size is written with the fewest decimal digits that are still nearer to it than to
any other size; of several such decimals the nearest is taken.  For each number of
digits only the two decimals next to the size need to be tried.
-/

set_option autoImplicit false

namespace ElectionReadiness.Json

/-- The decimal number `digits * 10 ^ exponent`. -/
structure ShortDecimal where
  digits : Nat
  exponent : Int
  deriving DecidableEq, Repr

namespace Binary64

/-- The numbers nearest to a size, in quarters of its unit: from `low` to `high`, with
both ends if `isClosed`. -/
structure Span where
  low : Nat
  middle : Nat
  high : Nat
  isClosed : Bool

/-- The numbers that round to a size.  Below a power of two the sizes lie closer. -/
def span (size : Binary64) : Span where
  low :=
    if size.significand == significandLimit / 2 && size.exponent != lowestExponent then
      4 * size.significand - 1
    else 4 * size.significand - 2
  middle := 4 * size.significand
  high := 4 * size.significand + 2
  isClosed := size.significand % 2 == 0

/-- Two to a power, as a quotient. -/
def powerOfTwo (exponent : Int) : Nat × Nat :=
  if 0 ≤ exponent then (Nat.pow 2 exponent.toNat, 1) else (1, Nat.pow 2 (-exponent).toNat)

/-- Ten to a power, as a quotient. -/
def powerOfTen (exponent : Int) : Nat × Nat :=
  if 0 ≤ exponent then (Nat.pow 10 exponent.toNat, 1) else (1, Nat.pow 10 (-exponent).toNat)

/-- Beyond the places of the smallest size. -/
def places : Nat := 400

/-- The place of the first decimal digit of a size that is not zero. -/
def firstPlace (size : Binary64) : Int :=
  let (num, den) := powerOfTwo size.exponent
  ((Decimal.digits (size.significand * num * Nat.pow 10 places / den)).length : Int) - 1 - places

/-- The decimal with its last digit at a place that is nearest to a size, if one
rounds to the size. -/
def decimalAt? (size : Binary64) (place : Int) : Option ShortDecimal :=
  let span := size.span
  let (unitNum, unitDen) := powerOfTwo (size.exponent - 2)
  let (tenNum, tenDen) := powerOfTen place
  -- A quarter of the unit and one step of the decimal, in the same measure.
  let unit := unitNum * tenDen
  let step := tenNum * unitDen
  let rounds (digits : Nat) : Bool :=
    if span.isClosed then span.low * unit ≤ digits * step && digits * step ≤ span.high * unit
    else span.low * unit < digits * step && digits * step < span.high * unit
  let below := span.middle * unit / step
  let rest := 2 * (span.middle * unit % step)
  let nearer := if rest < step || (rest == step && below % 2 == 0) then below else below + 1
  let farther := if nearer == below then below + 1 else below
  if rounds nearer then some ⟨nearer, place⟩
  else if rounds farther then some ⟨farther, place⟩
  else none

/-- More digits than that are never needed. -/
def mostDigits : Nat := 17

/-- A decimal without zeros at its end, at most `most` of them. -/
def withoutZeros : Nat → ShortDecimal → ShortDecimal
  | 0, decimal => decimal
  | most + 1, decimal =>
    if decimal.digits % 10 = 0 then withoutZeros most ⟨decimal.digits / 10, decimal.exponent + 1⟩
    else decimal

/-- The shortest decimal of a size. -/
def shortest (size : Binary64) : ShortDecimal :=
  if size.isZero then ⟨0, 0⟩
  else
    let first := size.firstPlace
    let found := (List.range mostDigits).findSome? fun (count : Nat) =>
      size.decimalAt? (first - count)
    match found with
    | none => ⟨0, 0⟩
    | some decimal => withoutZeros mostDigits decimal

end Binary64

end ElectionReadiness.Json
