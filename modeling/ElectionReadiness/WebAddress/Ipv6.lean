import ElectionReadiness.Text.Decimal
import ElectionReadiness.Text.Hexadecimal
import ElectionReadiness.Text.Split

/-!
# Addresses of sixteen bytes

Eight pieces of up to four hexadecimal digits, separated by colons.  One run of
pieces may be left out between two colons, and the last two pieces may be written
as four decimal bytes.
-/

set_option autoImplicit false

namespace ElectionReadiness.Ipv6

/-- A byte in decimal, without leading zeros. -/
def isByte (text : List Char) : Bool :=
  match text with
  | [] => false
  | ['0'] => true
  | '0' :: _ => false
  | digits => digits.all Decimal.isDigit && Decimal.value digits ≤ 255

/-- Four bytes, separated by points. -/
def isQuad (text : List Char) : Bool :=
  let parts := Text.split '.' text
  parts.length == 4 && parts.all isByte

/-- As many pieces as an address has; a run that is left out stands for the rest. -/
def isComplete (count : Nat) (shortened : Bool) : Bool := shortened || count == 8

/-- The hexadecimal digits at the front, no more than four. -/
def pieceDigits (text : List Char) : List Char :=
  (text.take 4).takeWhile fun c => (Hexadecimal.digitValue? c).isSome

/-- Reads the pieces after `count` others, of which a run may have been left out. -/
def isPieces (count : Nat) (shortened : Bool) (text : List Char) : Bool :=
  if text.isEmpty then isComplete count shortened
  else if count = 8 then false
  else
    let digits := pieceDigits text
    match rest : text.drop digits.length with
    | [] => isComplete (count + 1) shortened
    | ':' :: later =>
      if digits.isEmpty then !shortened && isPieces (count + 1) true later
      else !later.isEmpty && isPieces (count + 1) shortened later
    | '.' :: _ =>
      !digits.isEmpty && count ≤ 6 && isQuad text && isComplete (count + 2) shortened
    | _ => false
termination_by text.length
decreasing_by
  all_goals
    have shorter : (text.drop (pieceDigits text).length).length ≤ text.length := by
      rw [List.length_drop]; omega
    rw [rest] at shorter
    simp only [List.length_cons] at shorter
    omega

/-- An address of sixteen bytes. -/
def isAddress : List Char → Bool
  | ':' :: ':' :: later => isPieces 1 true later
  | ':' :: _ => false
  | text => isPieces 0 false text

end ElectionReadiness.Ipv6
