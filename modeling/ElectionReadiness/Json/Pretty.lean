import ElectionReadiness.Json.Value

/-!
# Writing JSON

Values are written with every item and every member on a line of its own, two blanks
further in than what it belongs to.  Empty arrays and objects take one line.
-/

set_option autoImplicit false

namespace ElectionReadiness.Json

/-- A new line, with the blanks of a depth. -/
def newLine (depth : Nat) : List Char := '\n' :: List.replicate (2 * depth) ' '

/-- Lines at a depth, with commas between them. -/
def writeLines (depth : Nat) : List (List Char) → List Char
  | [] => []
  | [only] => newLine depth ++ only
  | first :: second :: others =>
    newLine depth ++ first ++ ',' :: writeLines depth (second :: others)

/-- Puts brackets around lines at a depth; without lines nothing stands between
them. -/
def bracketed (opening closing : Char) (depth : Nat) (lines : List (List Char)) : List Char :=
  match lines with
  | [] => [opening, closing]
  | lines => opening :: (writeLines (depth + 1) lines ++ newLine depth ++ [closing])

namespace Value

mutual

/-- A value at a depth. -/
def write (depth : Nat) : Value → List Char
  | .null => "null".toList
  | .bool true => "true".toList
  | .bool false => "false".toList
  | .number value => value.write
  | .string value => spell value.toList
  | .array items => bracketed '[' ']' depth (writeItems (depth + 1) items)
  | .object members => bracketed '\x7b' '\x7d' depth (writeMembers (depth + 1) members)

/-- The items of an array at a depth. -/
def writeItems (depth : Nat) : List Value → List (List Char)
  | [] => []
  | item :: others => item.write depth :: writeItems depth others

/-- The members of an object at a depth. -/
def writeMembers (depth : Nat) : List (String × Value) → List (List Char)
  | [] => []
  | (name, value) :: others =>
    (spell name.toList ++ ':' :: ' ' :: value.write depth) :: writeMembers depth others

end

/-- A value as a text. -/
def pretty (value : Value) : String := String.ofList (value.write 0)

end Value

end ElectionReadiness.Json
