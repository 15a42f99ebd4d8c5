import ElectionReadiness.Json.Spelling
import ElectionReadiness.Json.Value

/-!
# Records in JSON

A record has named fields in a fixed order.  It is written as an object of its fields,
or as an array of all of them in order.  In an object the members may have any order;
members of other names do not count, whatever their content, and no field may be
given twice.  A field that is left out of an object, or null, is missing.
-/

set_option autoImplicit false

namespace ElectionReadiness.Json

namespace Tree

/-- The members of an object by their names. -/
def named? : List (List Piece × Tree) → Option (List (String × Tree))
  | [] => some []
  | (spelled, content) :: others =>
    match decodeString? spelled, named? others with
    | some name, some members => some ((name, content) :: members)
    | _, _ => none

/-- What members say about a field; none if there are several of its name. -/
def fieldOf? (members : List (String × Tree)) (field : String) : Option (Option Tree) :=
  match members.filter fun member => member.1 == field with
  | [] => some none
  | [member] => some (some member.2)
  | _ => none

/-- The contents of the fields of a record, in order. -/
def fields? (fields : List String) : Tree → Option (List (Option Tree))
  | .array items => if items.length = fields.length then some (items.map some) else none
  | .object spelled => (named? spelled).bind fun members => fields.mapM (fieldOf? members)
  | _ => none

/-! ## Contents of fields -/

/-- The content of a field that must be there. -/
def required? {α : Type} (read? : Tree → Option α) : Option Tree → Option α
  | none => none
  | some content => read? content

/-- The content of a field that may be missing. -/
def optional? {α : Type} (read? : Tree → Option α) : Option Tree → Option (Option α)
  | none => some none
  | some .null => some none
  | some content => (read? content).map some

/-- A string. -/
def string? : Tree → Option String
  | .string spelled => decodeString? spelled
  | _ => none

/-- A whole number of 32 bits. -/
def word? : Tree → Option UInt32
  | .number spelled =>
    match spelled.whole? with
    | some (.ofNat n) => if n < UInt32.size then some (UInt32.ofNat n) else none
    | _ => none
  | _ => none

/-- A list. -/
def list? {α : Type} (read? : Tree → Option α) : Tree → Option (List α)
  | .array items => items.mapM read?
  | _ => none

end Tree

namespace Value

/-- A record as an object of all its fields. -/
def ofFields (fields : List String) (contents : List Value) : Value :=
  .object (fields.zip contents)

/-- A field that may be missing. -/
def ofOption {α : Type} (write : α → Value) : Option α → Value
  | none => .null
  | some content => write content

/-- A list. -/
def ofList {α : Type} (write : α → Value) (contents : List α) : Value :=
  .array (contents.map write)

end Value

end ElectionReadiness.Json
