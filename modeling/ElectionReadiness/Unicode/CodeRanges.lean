import ElectionReadiness.Text.Hexadecimal

/-!
# Tables of characters

Properties of characters are kept as tables, written the way the standard writes
them: code points in hexadecimal, ranges with a hyphen, entries separated by
blanks.  `CodeRanges` is a set of characters; `CodeShift`, `CodeReplacement` and
`CodeClass` give characters other characters or a number.
-/

set_option autoImplicit false

namespace ElectionReadiness.Unicode

/-! ## Reading entries -/

/-- Reads hexadecimal digits off the front, after those that gave `read`. -/
def readHexFrom (read : Nat) : List Char → Nat × List Char
  | [] => (read, [])
  | c :: rest =>
    match Hexadecimal.digitValue? c with
    | some digit => readHexFrom (16 * read + digit) rest
    | none => (read, c :: rest)

/-- Reads a hexadecimal number off the front. -/
def readHex (text : List Char) : Nat × List Char := readHexFrom 0 text

/-- Reads a code point or a range of them. -/
def readRange (text : List Char) : (Nat × Nat) × List Char :=
  match readHex text with
  | (low, '-' :: rest) =>
    let (high, left) := readHex rest
    ((low, high), left)
  | (low, rest) => ((low, low), rest)

/-- Reads numbers joined by plus signs, no more than `most`. -/
def readSum : Nat → List Char → List Nat
  | 0, _ => []
  | most + 1, text =>
    match readHex text with
    | (first, '+' :: rest) => first :: readSum most rest
    | (first, _) => [first]

/-- Splits a line at its blanks; `word` is the word read so far, backwards. -/
def splitWords (word : List Char) : List Char → List (List Char)
  | [] => [word.reverse]
  | ' ' :: rest => word.reverse :: splitWords [] rest
  | c :: rest => splitWords (c :: word) rest

/-- The entries of a table. -/
def entries (lines : List String) : List (List Char) :=
  lines.flatMap fun line => splitWords [] line.toList

/-! ## Sets of characters -/

/-- A set of code points, as ranges with both ends. -/
structure CodeRanges where
  ranges : List (Nat × Nat)

/-- Reads a set of code points. -/
def CodeRanges.ofLines (lines : List String) : CodeRanges :=
  ⟨(entries lines).map fun entry => (readRange entry).1⟩

/-- A character is in a set. -/
def CodeRanges.has (set : CodeRanges) (c : Char) : Bool :=
  set.ranges.any fun range => range.1 ≤ c.toNat && c.toNat ≤ range.2

/-! ## Characters for characters -/

/-- Every `step`-th character from `first` to `last` stands for the one `amount`
above it, or below it. -/
structure CodeShift where
  first : Nat
  last : Nat
  step : Nat
  isUp : Bool
  amount : Nat

/-- Reads a shift: a range, a slash if it is of every second character, and the
signed amount. -/
def CodeShift.ofEntry (entry : List Char) : CodeShift :=
  let ((first, last), rest) := readRange entry
  let (step, rest) := match rest with
    | '/' :: more => (2, more)
    | more => (1, more)
  match rest with
  | '+' :: more => ⟨first, last, step, true, (readHex more).1⟩
  | _ :: more => ⟨first, last, step, false, (readHex more).1⟩
  | [] => ⟨first, last, step, true, 0⟩

/-- Reads a table of shifts. -/
def CodeShift.ofLines (lines : List String) : List CodeShift :=
  (entries lines).map CodeShift.ofEntry

/-- The character that a shift gives for another. -/
def CodeShift.image? (shift : CodeShift) (c : Char) : Option Char :=
  let n := c.toNat
  if shift.first ≤ n && n ≤ shift.last && (n - shift.first) % shift.step == 0 then
    some (Char.ofNat (if shift.isUp then n + shift.amount else n - shift.amount))
  else none

/-- A character and those that stand for it. -/
structure CodeReplacement where
  code : Nat
  images : List Char

/-- The most characters that stand for one. -/
def mostImages : Nat := 20

/-- Reads a table of replacements. -/
def CodeReplacement.ofLines (lines : List String) : List CodeReplacement :=
  (entries lines).map fun entry =>
    let (code, rest) := readHex entry
    ⟨code, (readSum mostImages (rest.drop 1)).map Char.ofNat⟩

/-- The characters that a table puts in the place of another. -/
def CodeReplacement.find? (table : List CodeReplacement) (c : Char) : Option (List Char) :=
  (table.find? (·.code == c.toNat)).map (·.images)

/-! ## Numbers for characters -/

/-- A range of characters with a number. -/
structure CodeClass where
  first : Nat
  last : Nat
  number : Nat

/-- Reads decimal digits, after those that gave `read`. -/
def readDecimalFrom (read : Nat) (text : List Char) : Nat :=
  text.foldl (fun total c => 10 * total + (c.toNat - 48)) read

/-- Reads a table of numbers, each after a colon. -/
def CodeClass.ofLines (lines : List String) : List CodeClass :=
  (entries lines).map fun entry =>
    let ((first, last), rest) := readRange entry
    ⟨first, last, readDecimalFrom 0 (rest.drop 1)⟩

/-- The number of a character, zero if the table has none. -/
def CodeClass.numberOf (table : List CodeClass) (c : Char) : Nat :=
  ((table.find? fun range => range.first ≤ c.toNat && c.toNat ≤ range.last).map (·.number)).getD 0

end ElectionReadiness.Unicode
