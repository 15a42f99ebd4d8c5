import ElectionReadiness.Json.Token
import ElectionReadiness.Text.Hexadecimal

/-!
# Spelling strings

The characters that the pieces of a string stand for, and how a string is written.
Two halves of a character must stand together to stand for one.  Quotation marks,
backslashes and controls are written with a backslash, and every other character as
it is.
-/

set_option autoImplicit false

namespace ElectionReadiness.Json

/-! ## Reading -/

/-- The first half of a character. -/
def isHighHalf (code : Nat) : Bool := 0xD800 ≤ code && code ≤ 0xDBFF

/-- The second half of a character. -/
def isLowHalf (code : Nat) : Bool := 0xDC00 ≤ code && code ≤ 0xDFFF

/-- The character of two halves. -/
def joinedHalves (high low : Nat) : Char :=
  Char.ofNat (0x10000 + 0x400 * (high - 0xD800) + (low - 0xDC00))

/-- The characters that pieces stand for, none if there is half a character. -/
def decode? : List Piece → Option (List Char)
  | [] => some []
  | .char c :: rest => (decode? rest).map (c :: ·)
  | .unit code :: rest =>
    if isHighHalf code then
      match rest with
      | .unit low :: later =>
        if isLowHalf low then (decode? later).map (joinedHalves code low :: ·) else none
      | _ => none
    else if isLowHalf code then none
    else (decode? rest).map (Char.ofNat code :: ·)

/-- The string that pieces stand for. -/
def decodeString? (spelled : List Piece) : Option String := (decode? spelled).map String.ofList

/-! ## Writing -/

/-- A character as it is written. -/
def escape (c : Char) : List Char :=
  if c = '"' then ['\\', '"']
  else if c = '\\' then ['\\', '\\']
  else if c = '\x08' then ['\\', 'b']
  else if c = '\x0c' then ['\\', 'f']
  else if c = '\n' then ['\\', 'n']
  else if c = '\r' then ['\\', 'r']
  else if c = '\t' then ['\\', 't']
  else if c.toNat < 0x20 then
    ['\\', 'u', '0', '0', Hexadecimal.digitChar (c.toNat / 16), Hexadecimal.digitChar (c.toNat % 16)]
  else [c]

/-- A string as it is written. -/
def spell (text : List Char) : List Char := '"' :: (text.flatMap escape ++ ['"'])

end ElectionReadiness.Json
