import ElectionReadiness.Json.Pretty
import ElectionReadiness.Proofs.Json.WrittenToken
import Mathlib.Data.List.Forall2

/-!
# How values are written

What is written of a value is a text in which the tokens of a tree are written.  A value
`Spells` a tree if that holds at every depth and whatever follows, as long as it does not go
on with a numeral, so that the lines of arrays and objects can be put together from the
lines of their parts (`spells_array`, `spells_object`).  Strings are written in pieces that
stand for them (`decodeString?_pieces`), and whole numbers without leading zeros
(`isWhole_digits`).  `ofTokens?_pretty` reads a written value back as the tree.
-/

set_option autoImplicit false

namespace ElectionReadiness.Json

/-! ## Strings -/

/-- The characters that are written as a letter after a backslash, though they are
controls. -/
def hasLetter (c : Char) : Bool :=
  c == '\x08' || c == '\x0c' || c == '\n' || c == '\r' || c == '\t'

/-- The piece that a character is written as. -/
def pieceOf (c : Char) : Piece :=
  if c.toNat < 0x20 ∧ hasLetter c = false then .unit c.toNat else .char c

/-- The pieces that a string is written in. -/
def pieces (text : String) : List Piece := text.toList.map pieceOf

/-- A control without a letter is written by the number of its place. -/
theorem unit?_control {n : Nat} (control : n < 0x20) :
    unit? '0' '0' (Hexadecimal.digitChar (n / 16)) (Hexadecimal.digitChar (n % 16)) = some n := by
  have zero : Hexadecimal.digitValue? '0' = some 0 := by decide
  have high := Hexadecimal.digitValue?_digitChar (by omega : n / 16 < 16)
  have low := Hexadecimal.digitValue?_digitChar (by omega : n % 16 < 16)
  simp only [unit?, zero, high, low, Option.some.injEq]
  omega

theorem pieceOf_isWritten (c : Char) : (pieceOf c).IsWritten (escape c) := by
  unfold escape
  split_ifs with quote backslash b f n r t control
  · subst quote; exact .letter rfl
  · subst backslash; exact .letter rfl
  · subst b; exact .letter rfl
  · subst f; exact .letter rfl
  · subst n; exact .letter rfl
  · subst r; exact .letter rfl
  · subst t; exact .letter rfl
  · have noLetter : hasLetter c = false := by
      simp only [hasLetter, Bool.or_eq_false_iff, beq_eq_false_iff_ne]
      exact ⟨⟨⟨⟨b, f⟩, n⟩, r⟩, t⟩
    rw [pieceOf, if_pos ⟨control, noLetter⟩]
    exact .unit (unit?_control control)
  · rw [pieceOf, if_neg fun both => control both.1]
    exact .plain control quote backslash

theorem decode?_unit {code : Nat} (notHigh : isHighHalf code = false)
    (notLow : isLowHalf code = false) (rest : List Piece) :
    decode? (.unit code :: rest) = (decode? rest).map (Char.ofNat code :: ·) := by
  rw [decode?.eq_def]
  simp only [notHigh, notLow, Bool.false_eq_true, if_false]

theorem decode?_map_pieceOf (text : List Char) : decode? (text.map pieceOf) = some text := by
  induction text with
  | nil => rfl
  | cons c rest ih =>
      rw [List.map_cons, pieceOf]
      split
      · next control =>
        have notHigh : isHighHalf c.toNat = false := by
          simp only [isHighHalf, Bool.and_eq_false_iff, decide_eq_false_iff_not]
          omega
        have notLow : isLowHalf c.toNat = false := by
          simp only [isLowHalf, Bool.and_eq_false_iff, decide_eq_false_iff_not]
          omega
        rw [decode?_unit notHigh notLow, ih, Char.ofNat_toNat]
        rfl
      · rw [decode?, ih]
        rfl

/-- A string is written in pieces that stand for it. -/
theorem decodeString?_pieces (text : String) : decodeString? (pieces text) = some text := by
  rw [decodeString?, pieces, decode?_map_pieceOf, Option.map_some, String.ofList_toList]

theorem areWritten_pieces (text : List Char) :
    Piece.AreWritten (text.map pieceOf) (text.flatMap escape) := by
  induction text with
  | nil => exact .nil
  | cons c rest ih => exact .cons (pieceOf_isWritten c) ih

theorem isWritten_spell (text : String) :
    (Token.string (pieces text)).IsWritten (spell text.toList) :=
  .string (areWritten_pieces text.toList)

/-! ## Whole numbers -/

theorem digitChar_isDigit {d : Nat} (small : d < 10) :
    Decimal.isDigit (Decimal.digitChar d) = true := by
  have each : ∀ e ∈ List.range 10, Decimal.isDigit (Decimal.digitChar e) = true := by decide
  exact each d (List.mem_range.mpr small)

theorem digitChar_ne_zero {d : Nat} (positive : 0 < d) (small : d < 10) :
    Decimal.digitChar d ≠ '0' := by
  have each : ∀ e ∈ List.range 10, 0 < e → Decimal.digitChar e ≠ '0' := by decide
  exact each d (List.mem_range.mpr small) positive

/-- The digits of a positive number come before those already written, and do not start with
a zero. -/
theorem exists_digitsFrom (fuel n : Nat) (later : List Char) (enough : n < fuel)
    (positive : 0 < n) :
    ∃ digits, Decimal.digitsFrom fuel n later = digits ++ later ∧ AreDigits digits ∧
      digits.head? ≠ some '0' := by
  induction fuel generalizing n later with
  | zero => omega
  | succ fuel ih =>
      simp only [Decimal.digitsFrom]
      split
      · next small =>
        refine ⟨[Decimal.digitChar n], rfl, ⟨by simp, ?_⟩, ?_⟩
        · intro c mem
          rw [List.mem_singleton.mp mem]
          exact digitChar_isDigit small
        · rw [List.head?_cons, Ne, Option.some.injEq]
          exact digitChar_ne_zero positive small
      · next large =>
        have digit := digitChar_isDigit (Nat.mod_lt n (by decide : 0 < 10))
        obtain ⟨digits, written, areDigits, start⟩ :=
          ih (n / 10) (Decimal.digitChar (n % 10) :: later) (by omega) (by omega)
        refine ⟨digits ++ [Decimal.digitChar (n % 10)], ?_, ⟨by simp, ?_⟩, ?_⟩
        · rw [written, List.append_assoc, List.singleton_append]
        · intro c mem
          rcases List.mem_append.mp mem with mem | mem
          · exact areDigits.all_digits c mem
          · rw [List.mem_singleton.mp mem]
            exact digit
        · obtain ⟨c, others, rfl, _⟩ := areDigits.start
          exact start

/-- A number is written as a whole without leading zeros. -/
theorem isWhole_digits (n : Nat) : IsWhole (Decimal.digits n) := by
  rcases Nat.eq_zero_or_pos n with rfl | positive
  · exact .zero
  · obtain ⟨digits, written, areDigits, start⟩ :=
      exists_digitsFrom (n + 1) n [] (Nat.lt_succ_self n) positive
    rw [Decimal.digits, written, List.append_nil]
    exact .digits areDigits start

/-- The numeral that a natural number is written as. -/
def naturalNumeral (n : Nat) : Numeral := ⟨false, Decimal.digits n, [], none⟩

theorem isWritten_natural (n : Nat) :
    (Token.number (naturalNumeral n)).IsWritten (Number.whole n).write := by
  have written : (Number.whole n).write = Decimal.digits n ++ ([] ++ []) := by
    have natural : ¬(n : Int) < 0 := by omega
    rw [Number.write, Decimal.ofInt, if_neg natural, List.append_nil, List.append_nil]
    rfl
  rw [written]
  exact .number (.positive (isWhole_digits n) .none .none)

/-- The numeral of a number of 64 bits stands for it. -/
theorem whole?_natural {n : Nat} (fits : n ≤ largestWord) :
    (naturalNumeral n).whole? = some n := by
  simp only [Numeral.whole?, naturalNumeral, Decimal.value_digits, if_pos fits]
  rfl

/-! ## Texts of tokens -/

/-- Tokens are written in a text, whatever follows that does not go on with a numeral. -/
def Writes (text : List Char) (tokens : List Token) : Prop :=
  ∀ rest later, StopsNumeral rest → Token.AreWritten later rest →
    Token.AreWritten (tokens ++ later) (text ++ rest)

theorem writes_token {token : Token} {written : List Char} (isWritten : token.IsWritten written) :
    Writes written [token] := by
  intro rest later stops areWritten
  exact .token isWritten (token.endsBefore_of_stops stops) areWritten

/-- Two texts in a row, the second of which does not go on with a numeral. -/
theorem Writes.append {text more : List Char} {tokens others : List Token}
    (first : Writes text tokens) (second : Writes more others)
    (starts : ∀ rest, StopsNumeral rest → StopsNumeral (more ++ rest)) :
    Writes (text ++ more) (tokens ++ others) := by
  intro rest later stops areWritten
  rw [List.append_assoc, List.append_assoc]
  exact first _ _ (starts rest stops) (second rest later stops areWritten)

/-- A mark comes first. -/
theorem Writes.mark {c : Char} {token : Token} {text : List Char} {tokens : List Token}
    (isWritten : token.IsWritten [c]) (ends : ∀ rest, token.EndsBefore rest)
    (second : Writes text tokens) : Writes (c :: text) (token :: tokens) := by
  intro rest later stops areWritten
  have whole : Token.AreWritten (token :: (tokens ++ later)) ([c] ++ (text ++ rest)) :=
    .token isWritten (ends _) (second rest later stops areWritten)
  exact whole

/-- Blanks may come first. -/
theorem Writes.blanks {text blanks : List Char} {tokens : List Token}
    (writes : Writes text tokens) (blank : ∀ c ∈ blanks, isSpace c = true) :
    Writes (blanks ++ text) tokens := by
  intro rest later stops areWritten
  rw [List.append_assoc]
  exact (writes rest later stops areWritten).blanks blank

theorem newLine_blank (depth : Nat) : ∀ c ∈ newLine depth, isSpace c = true := by
  intro c mem
  rw [newLine, List.mem_cons, List.mem_replicate] at mem
  rcases mem with rfl | ⟨_, rfl⟩
  · decide
  · decide

/-! ## Lines -/

/-- Lines with commas between them write the tokens of the lines, separated. -/
theorem writes_writeLines (depth : Nat) {lines : List (List Char)} {tokens : List (List Token)}
    (each : List.Forall₂ Writes lines tokens) :
    Writes (writeLines depth lines) (Tree.separated tokens) := by
  induction each with
  | nil =>
      intro rest later _ areWritten
      exact areWritten
  | cons first others ih =>
      cases others with
      | nil => exact first.blanks (newLine_blank depth)
      | cons second others =>
          refine (first.blanks (newLine_blank depth)).append ?_ ?_
          · exact ih.mark .comma (by rintro rest numeral ⟨⟩)
          · intro rest _
            exact stopsNumeral_cons (by decide) _

/-- Brackets around lines write the tokens of the lines, separated, between those of the
brackets. -/
theorem writes_bracketed {opening closing : Char} {openToken closeToken : Token}
    (opens : openToken.IsWritten [opening]) (closes : closeToken.IsWritten [closing])
    (ends : ∀ rest, openToken.EndsBefore rest) (depth : Nat) {lines : List (List Char)}
    {tokens : List (List Token)} (each : List.Forall₂ Writes lines tokens) :
    Writes (bracketed opening closing depth lines)
      (openToken :: (Tree.separated tokens ++ [closeToken])) := by
  cases each with
  | nil => exact (writes_token closes).mark opens ends
  | cons first others =>
      refine Writes.mark opens ends ?_
      rw [List.append_assoc]
      refine (writes_writeLines (depth + 1) (.cons first others)).append ?_ ?_
      · exact (writes_token closes).blanks (newLine_blank depth)
      · intro rest _
        exact stopsNumeral_cons (by decide) _

/-! ## Values -/

/-- What is written of a value are the tokens of a tree. -/
def Value.Spells (value : Value) (tree : Tree) : Prop :=
  ∀ depth, Writes (value.write depth) tree.tokens

theorem spells_null : Value.null.Spells .null := by
  intro depth
  exact writes_token .null

theorem spells_string (text : String) : (Value.string text).Spells (.string (pieces text)) := by
  intro depth
  exact writes_token (isWritten_spell text)

theorem spells_natural (n : Nat) :
    (Value.number (.whole n)).Spells (.number (naturalNumeral n)) := by
  intro depth
  exact writes_token (isWritten_natural n)

theorem itemTokens_eq_map (items : List Tree) : Tree.itemTokens items = items.map Tree.tokens := by
  induction items with
  | nil => rfl
  | cons item others ih => rw [Tree.itemTokens, ih, List.map_cons]

theorem writeItems_eq_map (depth : Nat) (items : List Value) :
    Value.writeItems depth items = items.map (Value.write depth) := by
  induction items with
  | nil => rfl
  | cons item others ih => rw [Value.writeItems, ih, List.map_cons]

/-- An array spells the trees that its items spell. -/
theorem spells_array {items : List Value} {trees : List Tree}
    (each : List.Forall₂ Value.Spells items trees) :
    (Value.array items).Spells (.array trees) := by
  intro depth
  have lines : List.Forall₂ Writes (items.map (Value.write (depth + 1)))
      (trees.map Tree.tokens) := by
    rw [List.forall₂_map_left_iff, List.forall₂_map_right_iff]
    exact each.imp fun item tree spells => spells (depth + 1)
  rw [Value.write, writeItems_eq_map, Tree.tokens, itemTokens_eq_map]
  exact writes_bracketed .openBracket .closeBracket (by rintro rest numeral ⟨⟩) depth lines

/-- A member spells a member. -/
def MemberSpells (member : String × Value) (shown : List Piece × Tree) : Prop :=
  shown.1 = pieces member.1 ∧ member.2.Spells shown.2

theorem writes_member (depth : Nat) {member : String × Value} {shown : List Piece × Tree}
    (spells : MemberSpells member shown) :
    Writes (spell member.1.toList ++ ':' :: ' ' :: member.2.write depth)
      (.string shown.1 :: .colon :: shown.2.tokens) := by
  obtain ⟨name, value⟩ := member
  obtain ⟨_, tree⟩ := shown
  obtain ⟨rfl, spells⟩ := spells
  have blank : ∀ c ∈ [' '], isSpace c = true := List.forall_mem_singleton.mpr (by decide)
  have content : Writes (':' :: ' ' :: value.write depth) (.colon :: tree.tokens) :=
    ((spells depth).blanks blank).mark .colon (by rintro rest numeral ⟨⟩)
  refine (writes_token (isWritten_spell name)).append content ?_
  intro rest _
  exact stopsNumeral_cons (by decide) _

/-- An object spells the members that its members spell. -/
theorem spells_object {members : List (String × Value)} {shown : List (List Piece × Tree)}
    (each : List.Forall₂ MemberSpells members shown) :
    (Value.object members).Spells (.object shown) := by
  intro depth
  have lines : List.Forall₂ Writes (Value.writeMembers (depth + 1) members)
      (Tree.memberTokens shown) := by
    induction each with
    | nil => exact .nil
    | cons first _ ih => exact .cons (writes_member (depth + 1) first) ih
  exact writes_bracketed .openBrace .closeBrace (by rintro rest numeral ⟨⟩) depth lines

/-- **The text of a value is read as the tree that the value spells.** -/
theorem ofTokens?_pretty {value : Value} {tree : Tree} (spells : value.Spells tree) :
    (Token.scanAll? value.pretty.toList).bind Tree.ofTokens? = some tree := by
  have none_left : Token.AreWritten [] [] := .nil (by simp)
  have areWritten := spells 0 [] [] stopsNumeral_nil none_left
  rw [List.append_nil, List.append_nil] at areWritten
  rw [Value.pretty, String.toList_ofList, Token.scanAll?_of_areWritten areWritten,
    Option.bind_some, Tree.ofTokens?_tokens]

end ElectionReadiness.Json
