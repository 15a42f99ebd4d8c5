/-!
# Numbers of 64 bits in binary

The sizes of floating point numbers: a significand of at most 53 bits times a power of
two.  Only finite sizes are kept; where a result would lie beyond them there is none.
Results that lie between two sizes go to the nearer one, and to the one with an even
significand if both are equally near.
-/

set_option autoImplicit false

namespace ElectionReadiness.Json

/-- The size `significand * 2 ^ exponent`. -/
structure Binary64 where
  significand : Nat
  exponent : Int
  deriving DecidableEq, Repr

namespace Binary64

/-- Significands have at most 53 bits. -/
def significandLimit : Nat := 9007199254740992

/-- The exponent of the smallest sizes. -/
def lowestExponent : Int := -1074

/-- The exponent of the largest sizes. -/
def highestExponent : Int := 971

def zero : Binary64 := ⟨0, lowestExponent⟩

def isZero (size : Binary64) : Bool := size.significand == 0

/-- The quotient of two numbers, of which the second is scaled by a power of two. -/
def scaled (num den : Nat) (exponent : Int) : Nat × Nat :=
  if 0 ≤ exponent then (num, den * Nat.pow 2 exponent.toNat)
  else (num * Nat.pow 2 (-exponent).toNat, den)

/-- A quotient, rounded to the nearest number and to the even one of two. -/
def roundedQuotient (num den : Nat) : Nat :=
  let whole := num / den
  let rest := 2 * (num % den)
  if rest < den || (rest == den && whole % 2 == 0) then whole else whole + 1

/-- The exponent under which a quotient has a significand of 53 bits, or the lowest. -/
def exponentFor (num den : Nat) : Int :=
  let guess : Int := (num.log2 : Int) - den.log2 - 53
  let (n, d) := scaled num den guess
  max lowestExponent (if n / d < significandLimit then guess else guess + 1)

/-- The size nearest to a quotient, none beyond the largest. -/
def ofRatio? (num den : Nat) : Option Binary64 :=
  if num = 0 then some zero
  else
    let exponent := exponentFor num den
    let (n, d) := scaled num den exponent
    let significand := roundedQuotient n d
    let size : Binary64 :=
      if significand < significandLimit then ⟨significand, exponent⟩
      else ⟨significand / 2, exponent + 1⟩
    if size.exponent ≤ highestExponent then some size else none

/-- The size nearest to a whole number. -/
def ofNat? (n : Nat) : Option Binary64 := ofRatio? n 1

/-- The size nearest to `num * 2 ^ exponent / den`. -/
def ofScaledRatio? (num den : Nat) (exponent : Int) : Option Binary64 :=
  let (n, d) := scaled num den (-exponent)
  ofRatio? n d

/-- The product of two sizes. -/
def times? (one other : Binary64) : Option Binary64 :=
  ofScaledRatio? (one.significand * other.significand) 1 (one.exponent + other.exponent)

/-- The quotient of two sizes. -/
def over? (one other : Binary64) : Option Binary64 :=
  ofScaledRatio? one.significand other.significand (one.exponent - other.exponent)

end Binary64

end ElectionReadiness.Json
