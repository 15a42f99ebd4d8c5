/-!
# Tokens of JSON

A JSON text is a row of tokens: marks, words, numerals and strings.  Numerals and
strings are kept as they are spelled, for what they stand for depends on where they
stand.
-/

set_option autoImplicit false

namespace ElectionReadiness.Json

/-- A numeral as it is spelled. -/
structure Numeral where
  negative : Bool
  /-- The digits before the point. -/
  whole : List Char
  /-- The digits after the point, empty if there is none. -/
  fraction : List Char
  /-- The exponent, with its sign and its digits. -/
  exponent : Option (Bool × List Char)
  deriving DecidableEq, Repr

/-- One step of a string as it is spelled. -/
inductive Piece where
  /-- A character, written as it is or by a letter after a backslash. -/
  | char (c : Char)
  /-- Four hexadecimal digits, which may be half of a character. -/
  | unit (code : Nat)
  deriving DecidableEq, Repr

/-- A token. -/
inductive Token where
  | openBrace
  | closeBrace
  | openBracket
  | closeBracket
  | colon
  | comma
  | null
  | bool (value : Bool)
  | number (spelled : Numeral)
  | string (spelled : List Piece)
  deriving DecidableEq, Repr

/-! ## How deep arrays and objects lie in each other -/

/-- The depth after a token. -/
def Token.depthAfter (depth : Nat) : Token → Nat
  | .openBracket | .openBrace => depth + 1
  | .closeBracket | .closeBrace => depth - 1
  | _ => depth

/-- At no token is the depth beyond a limit. -/
def Token.withinDepth (limit depth : Nat) : List Token → Bool
  | [] => true
  | token :: later =>
    let next := token.depthAfter depth
    next ≤ limit && withinDepth limit next later

end ElectionReadiness.Json
