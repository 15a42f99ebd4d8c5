/-!
# Decimal numerals

Natural numbers as lists of decimal digits: `digits` writes one without leading
zeros, `padded` gives it at least so many places, and `value` reads any list of
digits.  `value_digits` says that what is written reads back.
-/

set_option autoImplicit false

namespace ElectionReadiness.Decimal

/-- The character of a digit. -/
def digitChar (d : Nat) : Char := Char.ofNat (48 + d)

/-- The value of a digit character. -/
def digitValue (c : Char) : Nat := c.toNat - 48

/-- The ASCII digits, and no others. -/
def isDigit (c : Char) : Bool := '0' ≤ c && c ≤ '9'

/-- Writes `n` before the digits already written, within `fuel` places. -/
def digitsFrom : Nat → Nat → List Char → List Char
  | 0, _, later => later
  | fuel + 1, n, later =>
    if n < 10 then digitChar n :: later
    else digitsFrom fuel (n / 10) (digitChar (n % 10) :: later)

/-- The numeral of `n`, without leading zeros. -/
def digits (n : Nat) : List Char := digitsFrom (n + 1) n []

/-- The numeral of `n` as a string. -/
def text (n : Nat) : String := String.ofList (digits n)

/-- The numeral of `n`, filled up with zeros to `places` places. -/
def padded (places n : Nat) : List Char :=
  let written := digits n
  List.replicate (places - written.length) '0' ++ written

/-- The numeral of an integer, with a minus sign if it is negative. -/
def ofInt (n : Int) : List Char :=
  if n < 0 then '-' :: digits n.natAbs else digits n.natAbs

/-- Reads digits after those that gave `read`. -/
def valueFrom (read : Nat) (written : List Char) : Nat :=
  written.foldl (fun total c => 10 * total + digitValue c) read

/-- The number that a list of digits stands for. -/
def value (written : List Char) : Nat := valueFrom 0 written

/-! ## What is written reads back -/

theorem digitValue_digitChar {d : Nat} (h : d < 10) : digitValue (digitChar d) = d := by
  have each : ∀ e ∈ List.range 10, digitValue (digitChar e) = e := by decide
  exact each d (List.mem_range.mpr h)

theorem valueFrom_digitsFrom (fuel n : Nat) (later : List Char) (h : n < fuel) :
    valueFrom 0 (digitsFrom fuel n later) = valueFrom n later := by
  induction fuel generalizing n later with
  | zero => omega
  | succ fuel ih =>
    simp only [digitsFrom]
    split
    · next small => simp [valueFrom, digitValue_digitChar small]
    · next large =>
      rw [ih (n / 10) _ (by omega)]
      simp only [valueFrom, List.foldl_cons]
      rw [digitValue_digitChar (Nat.mod_lt n (by decide)), Nat.div_add_mod n 10]

/-- A numeral stands for the number it was written for. -/
theorem value_digits (n : Nat) : value (digits n) = n := by
  simpa [value, digits, valueFrom] using valueFrom_digitsFrom (n + 1) n [] (by omega)

/-- Different numbers have different numerals. -/
theorem text_injective {m n : Nat} (same : text m = text n) : m = n := by
  have written : digits m = digits n := String.ofList_injective same
  rw [← value_digits m, written, value_digits]

end ElectionReadiness.Decimal
