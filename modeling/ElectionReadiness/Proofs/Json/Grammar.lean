import ElectionReadiness.Proofs.Json.WrittenValue

/-!
# The grammar of JSON

How a tree may be written as a text, as a grammar: a value has one of seven forms
(`Tree.IsWritten`), a whole text is a value with any blanks around it (`Tree.IsText`), items
have commas between them, and members a name and a colon before their value.  The grammar
knows no tokens and no order in which a text is read.  Strings may hold any characters and
escapes, half characters too, and there is no limit on sizes and depths.

Scanning finds the tokens of the tree in every text of the grammar
(`Token.scanAll?_of_isText`).
-/

set_option autoImplicit false

namespace ElectionReadiness.Json

/-! ## The grammar -/

/-- Nothing but the blanks of JSON. -/
def AreBlanks (text : List Char) : Prop := ∀ c ∈ text, isSpace c = true

/-- A string in its quotation marks. -/
inductive Piece.AreQuoted : List Piece → List Char → Prop
  | marks {pieces : List Piece} {written : List Char} (inside : Piece.AreWritten pieces written) :
      AreQuoted pieces ('"' :: (written ++ ['"']))

mutual

/-- A value is written as a text, from its first character to its last. -/
inductive Tree.IsWritten : Tree → List Char → Prop
  | null : IsWritten .null ['n', 'u', 'l', 'l']
  | yes : IsWritten (.bool true) ['t', 'r', 'u', 'e']
  | no : IsWritten (.bool false) ['f', 'a', 'l', 's', 'e']
  | number {numeral : Numeral} {written : List Char} (isWritten : numeral.IsWritten written) :
      IsWritten (.number numeral) written
  | string {pieces : List Piece} {quoted : List Char} (areQuoted : Piece.AreQuoted pieces quoted) :
      IsWritten (.string pieces) quoted
  | emptyArray {blanks : List Char} (blank : AreBlanks blanks) :
      IsWritten (.array []) ('[' :: (blanks ++ [']']))
  | array {items : List Tree} {inside : List Char} (areWritten : Tree.AreItems items inside) :
      IsWritten (.array items) ('[' :: (inside ++ [']']))
  | emptyObject {blanks : List Char} (blank : AreBlanks blanks) :
      IsWritten (.object []) ('{' :: (blanks ++ ['}']))
  | object {members : List (List Piece × Tree)} {inside : List Char}
      (areWritten : Tree.AreMembers members inside) :
      IsWritten (.object members) ('{' :: (inside ++ ['}']))

/-- A value is written as a text with blanks around it. -/
inductive Tree.IsText : Tree → List Char → Prop
  | blanks {tree : Tree} {before written after : List Char} (blankBefore : AreBlanks before)
      (isWritten : Tree.IsWritten tree written) (blankAfter : AreBlanks after) :
      IsText tree (before ++ (written ++ after))

/-- Items are written with commas between them. -/
inductive Tree.AreItems : List Tree → List Char → Prop
  | last {item : Tree} {text : List Char} (isText : Tree.IsText item text) : AreItems [item] text
  | comma {item : Tree} {items : List Tree} {text later : List Char}
      (isText : Tree.IsText item text) (areItems : Tree.AreItems items later) :
      AreItems (item :: items) (text ++ ',' :: later)

/-- A member is written as its name, a colon and its value. -/
inductive Tree.IsMember : List Piece × Tree → List Char → Prop
  | colon {name : List Piece} {tree : Tree} {before quoted after text : List Char}
      (blankBefore : AreBlanks before) (areQuoted : Piece.AreQuoted name quoted)
      (blankAfter : AreBlanks after) (isText : Tree.IsText tree text) :
      IsMember (name, tree) (before ++ (quoted ++ (after ++ ':' :: text)))

/-- Members are written with commas between them. -/
inductive Tree.AreMembers : List (List Piece × Tree) → List Char → Prop
  | last {member : List Piece × Tree} {text : List Char} (isMember : Tree.IsMember member text) :
      AreMembers [member] text
  | comma {member : List Piece × Tree} {members : List (List Piece × Tree)}
      {text later : List Char} (isMember : Tree.IsMember member text)
      (areMembers : Tree.AreMembers members later) :
      AreMembers (member :: members) (text ++ ',' :: later)

end

/-! ## Texts of the grammar are scanned as the tokens of their trees -/

theorem Piece.AreQuoted.isWritten {pieces : List Piece} {quoted : List Char}
    (areQuoted : Piece.AreQuoted pieces quoted) : (Token.string pieces).IsWritten quoted := by
  obtain ⟨inside⟩ := areQuoted
  exact .string inside

/-- A blank does not go on with a numeral. -/
theorem stopsNumeral_of_blanks {blanks rest : List Char} (blank : AreBlanks blanks)
    (stops : StopsNumeral rest) : StopsNumeral (blanks ++ rest) := by
  cases blanks with
  | nil => exact stops
  | cons c others =>
      have first : isSpace c = true := blank c (List.mem_cons_self ..)
      simp only [isSpace, Bool.or_eq_true, beq_iff_eq] at first
      refine stopsNumeral_cons ?_ _
      rcases first with ((rfl | rfl) | rfl) | rfl <;> decide

/-- Blanks may come last. -/
theorem Writes.blanksAfter {text blanks : List Char} {tokens : List Token}
    (writes : Writes text tokens) (blank : AreBlanks blanks) : Writes (text ++ blanks) tokens := by
  intro rest later stops areWritten
  rw [List.append_assoc]
  exact writes _ _ (stopsNumeral_of_blanks blank stops) (areWritten.blanks blank)

/-- A closing mark may follow blanks. -/
theorem writes_closing {c : Char} {token : Token} {blanks : List Char}
    (isWritten : token.IsWritten [c]) (blank : AreBlanks blanks) :
    Writes (blanks ++ [c]) [token] := (writes_token isWritten).blanks blank

/-- Marks around a text. -/
theorem Writes.enclosed {opening closing : Char} {openToken closeToken : Token}
    {inside : List Char} {tokens : List Token} (opens : openToken.IsWritten [opening])
    (closes : closeToken.IsWritten [closing]) (ends : ∀ rest, openToken.EndsBefore rest)
    (stops : goesOnNumeral closing = false) (writes : Writes inside tokens) :
    Writes (opening :: (inside ++ [closing])) (openToken :: (tokens ++ [closeToken])) := by
  refine (writes.append (writes_token closes) ?_).mark opens ends
  intro rest _
  exact stopsNumeral_cons stops _

/-- Two texts with a comma between them. -/
theorem Writes.comma {text later : List Char} {tokens others : List Token}
    (first : Writes text tokens) (second : Writes later others) :
    Writes (text ++ ',' :: later) (tokens ++ .comma :: others) := by
  refine first.append (second.mark .comma (by rintro rest numeral ⟨⟩)) ?_
  intro rest _
  exact stopsNumeral_cons (by decide) _

theorem Tree.separated_cons_of_ne_nil (first : List Token) {others : List (List Token)}
    (more : others ≠ []) : separated (first :: others) = first ++ .comma :: separated others := by
  cases others with
  | nil => exact absurd rfl more
  | cons second rest => rfl

mutual

/-- The text of a value writes the tokens of the value. -/
theorem Tree.IsWritten.writes {tree : Tree} {text : List Char} :
    tree.IsWritten text → Writes text tree.tokens
  | .null => writes_token .null
  | .yes => writes_token .yes
  | .no => writes_token .no
  | .number isWritten => writes_token (.number isWritten)
  | .string areQuoted => writes_token areQuoted.isWritten
  | .emptyArray blank =>
      (writes_closing .closeBracket blank).mark .openBracket (by rintro rest numeral ⟨⟩)
  | .array areItems =>
      areItems.writes.enclosed .openBracket .closeBracket (by rintro rest numeral ⟨⟩) (by decide)
  | .emptyObject blank =>
      (writes_closing .closeBrace blank).mark .openBrace (by rintro rest numeral ⟨⟩)
  | .object areMembers =>
      areMembers.writes.enclosed .openBrace .closeBrace (by rintro rest numeral ⟨⟩) (by decide)

theorem Tree.IsText.writes {tree : Tree} {text : List Char} :
    tree.IsText text → Writes text tree.tokens
  | .blanks blankBefore isWritten blankAfter =>
      (isWritten.writes.blanksAfter blankAfter).blanks blankBefore

theorem Tree.AreItems.writes {items : List Tree} {text : List Char} :
    Tree.AreItems items text → Writes text (separated (itemTokens items))
  | .last isText => isText.writes
  | .comma isText areItems => by
      rw [itemTokens, separated_cons_of_ne_nil]
      · exact isText.writes.comma areItems.writes
      · cases areItems <;> simp [itemTokens]

theorem Tree.IsMember.writes {member : List Piece × Tree} {text : List Char} :
    Tree.IsMember member text → Writes text (.string member.1 :: .colon :: member.2.tokens)
  | .colon blankBefore areQuoted blankAfter isText => by
      have colon := isText.writes.mark .colon (by rintro rest numeral ⟨⟩)
      refine ((writes_token areQuoted.isWritten).append (colon.blanks blankAfter) ?_).blanks
        blankBefore
      intro rest _
      rw [List.append_assoc]
      exact stopsNumeral_of_blanks blankAfter (stopsNumeral_cons (by decide) _)

theorem Tree.AreMembers.writes {members : List (List Piece × Tree)} {text : List Char} :
    Tree.AreMembers members text → Writes text (separated (memberTokens members))
  | .last isMember => isMember.writes
  | .comma isMember areMembers => by
      rw [memberTokens, separated_cons_of_ne_nil]
      · exact isMember.writes.comma areMembers.writes
      · cases areMembers <;> simp [memberTokens]

end

/-- **In a text of the grammar the tokens of its tree are scanned.** -/
theorem Token.scanAll?_of_isText {tree : Tree} {text : List Char} (isText : tree.IsText text) :
    Token.scanAll? text = some tree.tokens := by
  have none_left : Token.AreWritten [] [] := .nil (by simp)
  have areWritten := isText.writes [] [] stopsNumeral_nil none_left
  rw [List.append_nil, List.append_nil] at areWritten
  exact Token.scanAll?_of_areWritten areWritten

end ElectionReadiness.Json
