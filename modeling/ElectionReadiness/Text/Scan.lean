import ElectionReadiness.Text.Blank
import ElectionReadiness.Text.Decimal

/-!
# Scanning

A scan reads something off the front of a text and leaves the rest, or fails.
The few scans here are what written times are put together from: a mark, a run
of blanks and a number of so many digits.  `Scan.all?` asks that nothing is
left over.
-/

set_option autoImplicit false

namespace ElectionReadiness

/-- Reads an `α` off the front of a text. -/
abbrev Scan (α : Type) : Type := StateT (List Char) Option α

namespace Scan

variable {α : Type}

/-- Reads a whole text. -/
def all? (scan : Scan α) (text : List Char) : Option α :=
  match scan text with
  | some (result, []) => some result
  | _ => none

/-- Reads one given character. -/
def mark (wanted : Char) : Scan Unit
  | [] => none
  | c :: rest => if c = wanted then some ((), rest) else none

/-- Skips blanks. -/
def blanks : Scan Unit := fun text => some ((), text.dropWhile Text.isBlank)

/-- Reads a number of at least one digit; of more than `most` digits it reads
the first `most`. -/
def number (most : Nat) : Scan Nat := fun text =>
  match (text.take most).takeWhile Decimal.isDigit with
  | [] => none
  | written => some (Decimal.value written, text.drop written.length)

/-- Reads a number of any length of at least one digit. -/
def longNumber : Scan Nat := fun text =>
  match text.takeWhile Decimal.isDigit with
  | [] => none
  | written => some (Decimal.value written, text.dropWhile Decimal.isDigit)

end Scan

end ElectionReadiness
