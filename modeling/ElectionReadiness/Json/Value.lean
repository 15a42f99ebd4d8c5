import ElectionReadiness.Json.Assembly
import ElectionReadiness.Json.Number
import ElectionReadiness.Json.Scanner
import ElectionReadiness.Json.Spelling

/-!
# Values of JSON

A value is what a tree stands for: its numerals are read as numbers and its strings
as texts.  The members of an object that is read are in the order of their names, and
of several members of one name the last counts.  `Value.parse?` reads a whole text,
whose arrays and objects may lie in each other to a limited depth.
-/

set_option autoImplicit false

namespace ElectionReadiness.Json

/-- A value. -/
inductive Value where
  | null
  | bool (value : Bool)
  | number (value : Number)
  | string (value : String)
  | array (items : List Value)
  | object (members : List (String × Value))

/-- Puts a member among others in the order of the names, in the place of one of the
same name. -/
def insertMember {α : Type} (name : String) (value : α) :
    List (String × α) → List (String × α)
  | [] => [(name, value)]
  | (other, content) :: rest =>
    if name < other then (name, value) :: (other, content) :: rest
    else if name = other then (name, value) :: rest
    else (other, content) :: insertMember name value rest

namespace Value

mutual

/-- The value that a tree stands for, none if a number is too large or a string
holds half a character. -/
def ofTree? : Tree → Option Value
  | .null => some .null
  | .bool value => some (.bool value)
  | .number spelled => (Number.ofNumeral? spelled).map .number
  | .string spelled => (decodeString? spelled).map .string
  | .array items => (ofItems? items).map .array
  | .object members => (ofMembers? [] members).map .object

/-- The values of items. -/
def ofItems? : List Tree → Option (List Value)
  | [] => some []
  | item :: others =>
    match ofTree? item, ofItems? others with
    | some value, some values => some (value :: values)
    | _, _ => none

/-- The members of an object, after those read. -/
def ofMembers? (read : List (String × Value)) :
    List (List Piece × Tree) → Option (List (String × Value))
  | [] => some read
  | (spelled, content) :: others =>
    match decodeString? spelled, ofTree? content with
    | some name, some value => ofMembers? (insertMember name value read) others
    | _, _ => none

end

/-- Arrays and objects may lie in each other to this depth. -/
def deepest : Nat := 127

/-- Reads a value. -/
def parse? (text : String) : Option Value :=
  match Token.scanAll? text.toList with
  | none => none
  | some tokens =>
    if Token.withinDepth deepest 0 tokens then (Tree.ofTokens? tokens).bind ofTree? else none

/-- The content of a member of an object. -/
def member? (name : String) : Value → Option Value
  | .object members => members.lookup name
  | _ => none

end Value

end ElectionReadiness.Json
