import ElectionReadiness.Json.Token

/-!
# Trees of JSON

What a row of tokens stands for, with numerals and strings still as they are spelled
and all members of objects in their order, repeated or not.  `Tree.tokens` gives the
tokens of a tree.
-/

set_option autoImplicit false

namespace ElectionReadiness.Json

/-- A value as it is spelled. -/
inductive Tree where
  | null
  | bool (value : Bool)
  | number (spelled : Numeral)
  | string (spelled : List Piece)
  | array (items : List Tree)
  | object (members : List (List Piece × Tree))

/-! ## The tokens of a tree -/

namespace Tree

/-- The tokens of pieces of a list, with commas between them. -/
def separated : List (List Token) → List Token
  | [] => []
  | [only] => only
  | first :: second :: others => first ++ .comma :: separated (second :: others)

mutual

/-- The tokens of a tree. -/
def tokens : Tree → List Token
  | .null => [.null]
  | .bool value => [.bool value]
  | .number spelled => [.number spelled]
  | .string spelled => [.string spelled]
  | .array items => .openBracket :: (separated (itemTokens items) ++ [.closeBracket])
  | .object members => .openBrace :: (separated (memberTokens members) ++ [.closeBrace])

/-- The tokens of each item. -/
def itemTokens : List Tree → List (List Token)
  | [] => []
  | item :: others => item.tokens :: itemTokens others

/-- The tokens of each member. -/
def memberTokens : List (List Piece × Tree) → List (List Token)
  | [] => []
  | (name, value) :: others => (.string name :: .colon :: value.tokens) :: memberTokens others

end

end Tree

end ElectionReadiness.Json
