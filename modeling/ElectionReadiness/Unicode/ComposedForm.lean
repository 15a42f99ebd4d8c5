import ElectionReadiness.Unicode.Composition

/-!
# The composed form of a text

A text is brought into composed form in three steps: its composed characters are
taken apart, the marks after each character are put in the order of their
combining classes, and characters are composed again with the marks that reach
them.  The syllables of Hangul follow a rule of their own.
-/

set_option autoImplicit false

namespace ElectionReadiness.Unicode

/-- The combining class of a character, zero for one that is no mark. -/
def combiningClass (c : Char) : Nat := CodeClass.numberOf combiningClasses c

/-! ## Hangul -/

/-- Takes a syllable apart into a leading consonant, a vowel and possibly a
trailing consonant. -/
def hangulParts? (c : Char) : Option (List Char) :=
  let n := c.toNat
  if 0xAC00 ≤ n && n ≤ 0xD7A3 then
    let place := n - 0xAC00
    let trailing := place % 28
    let parts := [Char.ofNat (0x1100 + place / 588), Char.ofNat (0x1161 + place % 588 / 28)]
    some (if trailing = 0 then parts else parts ++ [Char.ofNat (0x11A7 + trailing)])
  else none

/-- Composes a leading consonant with a vowel, or a syllable with a trailing
consonant. -/
def hangulComposed? (first second : Char) : Option Char :=
  let a := first.toNat
  let b := second.toNat
  if 0x1100 ≤ a && a ≤ 0x1112 && 0x1161 ≤ b && b ≤ 0x1175 then
    some (Char.ofNat (0xAC00 + (a - 0x1100) * 588 + (b - 0x1161) * 28))
  else if 0xAC00 ≤ a && a ≤ 0xD7A3 && (a - 0xAC00) % 28 == 0 && 0x11A8 ≤ b && b ≤ 0x11C2 then
    some (Char.ofNat (a + (b - 0x11A7)))
  else none

/-! ## Taking apart -/

/-- Takes a character apart as far as it goes, at most `depth` times. -/
def decomposeChar : Nat → Char → List Char
  | 0, c => [c]
  | depth + 1, c =>
    match hangulParts? c with
    | some parts => parts
    | none =>
      match CodeReplacement.find? compositions c with
      | some (first :: rest) => decomposeChar depth first ++ rest
      | _ => [c]

/-- How often a character can be taken apart. -/
def deepestComposition : Nat := 8

/-- Takes all characters apart; plain ASCII has no parts. -/
def decompose (text : List Char) : List Char :=
  text.flatMap fun c => if c.toNat < 0x80 then [c] else decomposeChar deepestComposition c

/-! ## Ordering marks -/

/-- Puts a character before a text whose marks are in order: a mark moves back
behind the marks of smaller class. -/
def insertMark (c : Char) (level : Nat) : List Char → List Char
  | [] => [c]
  | next :: rest =>
    let other := combiningClass next
    if other != 0 && other < level then next :: insertMark c level rest else c :: next :: rest

/-- Orders the marks after each character. -/
def orderMarks (text : List Char) : List Char :=
  text.foldr (fun c rest => insertMark c (combiningClass c) rest) []

/-! ## Composing -/

/-- The character composed of two. -/
def composed? (first second : Char) : Option Char :=
  match hangulComposed? first second with
  | some c => some c
  | none =>
    (compositions.find? fun entry => entry.images == [first, second]).map
      fun entry => Char.ofNat entry.code

/-- Composes a character with the text after it.  `marks` are the marks that stayed
apart, backwards, the last of them of class `last`. -/
def composeFrom (starter : Char) (marks : List Char) (last : Nat) : List Char → List Char
  | [] => starter :: marks.reverse
  | c :: rest =>
    let level := combiningClass c
    let reaches := marks.isEmpty || last < level
    match if reaches then composed? starter c else none with
    | some whole => composeFrom whole marks last rest
    | none =>
      if level = 0 then starter :: (marks.reverse ++ composeFrom c [] 0 rest)
      else composeFrom starter (c :: marks) level rest

/-- Composes all characters that can be. -/
def compose : List Char → List Char
  | [] => []
  | c :: rest =>
    if combiningClass c = 0 then composeFrom c [] 0 rest else c :: compose rest

/-- The composed form of a text. -/
def composedForm (text : List Char) : List Char :=
  if text.all (·.toNat < 0x80) then text else compose (orderMarks (decompose text))

end ElectionReadiness.Unicode
