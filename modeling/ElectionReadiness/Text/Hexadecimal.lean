/-!
# Hexadecimal numerals

Natural numbers in base sixteen, written in small letters and read in either case.
-/

set_option autoImplicit false

namespace ElectionReadiness.Hexadecimal

/-- The character of a digit, a small letter from ten on. -/
def digitChar (d : Nat) : Char :=
  if d < 10 then Char.ofNat (48 + d) else Char.ofNat (87 + d)

/-- The value of a digit, in either case. -/
def digitValue? (c : Char) : Option Nat :=
  if '0' ≤ c && c ≤ '9' then some (c.toNat - 48)
  else if 'a' ≤ c && c ≤ 'f' then some (c.toNat - 87)
  else if 'A' ≤ c && c ≤ 'F' then some (c.toNat - 55)
  else none

/-- Writes `n` before the digits already written, within `fuel` places. -/
def digitsFrom : Nat → Nat → List Char → List Char
  | 0, _, later => later
  | fuel + 1, n, later =>
    if n < 16 then digitChar n :: later
    else digitsFrom fuel (n / 16) (digitChar (n % 16) :: later)

/-- The numeral of `n`, without leading zeros. -/
def digits (n : Nat) : List Char := digitsFrom (n + 1) n []

/-- A digit reads back. -/
theorem digitValue?_digitChar {d : Nat} (h : d < 16) : digitValue? (digitChar d) = some d := by
  have each : ∀ e ∈ List.range 16, digitValue? (digitChar e) = some e := by decide
  exact each d (List.mem_range.mpr h)

end ElectionReadiness.Hexadecimal
