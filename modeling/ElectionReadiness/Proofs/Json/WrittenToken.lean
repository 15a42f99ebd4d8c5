import ElectionReadiness.Json.Scanner
import Mathlib.Data.List.TakeWhile

/-!
# How tokens are written

What a text must look like to be scanned as tokens.  A string may have any character written
as it is or in any of its escaped forms, a numeral may have all its parts, and blanks may
stand anywhere between tokens (`Token.AreWritten`).  Only a numeral cares for what follows
it, for it takes all it can: it must stop at a character that does not go on with it
(`StopsNumeral`).

Scanning goes back over each of these relations: `scanString?_append` for strings,
`scanNumeral?_append` for numerals, `Token.scan?_append` for one token and
`Token.scanAll?_of_areWritten` for a whole text.
-/

set_option autoImplicit false

namespace ElectionReadiness.Json

/-! ## Strings -/

/-- A piece of a string is written as a text. -/
inductive Piece.IsWritten : Piece → List Char → Prop
  | plain {c : Char} (notControl : ¬c.toNat < 0x20) (notQuote : c ≠ '"')
      (notBackslash : c ≠ '\\') : IsWritten (.char c) [c]
  | letter {letter c : Char} (means : escaped? letter = some c) :
      IsWritten (.char c) ['\\', letter]
  | unit {a b c d : Char} {code : Nat} (means : unit? a b c d = some code) :
      IsWritten (.unit code) ['\\', 'u', a, b, c, d]

/-- Pieces are written one after the other. -/
inductive Piece.AreWritten : List Piece → List Char → Prop
  | nil : AreWritten [] []
  | cons {piece : Piece} {pieces : List Piece} {written others : List Char}
      (first : piece.IsWritten written) (later : AreWritten pieces others) :
      AreWritten (piece :: pieces) (written ++ others)

theorem scanString?_plain {c : Char} (notControl : ¬c.toNat < 0x20) (notQuote : c ≠ '"')
    (notBackslash : c ≠ '\\') (rest : List Char) :
    scanString? (c :: rest) = withPiece (some (.char c)) (scanString? rest) := by
  rw [scanString?.eq_def]
  split
  · next absurdity => cases absurdity
  · next quoted => exact absurd (List.cons.inj quoted).1 notQuote
  · next unit => exact absurd (List.cons.inj unit).1 notBackslash
  · next letter => exact absurd (List.cons.inj letter).1 notBackslash
  · next same =>
    obtain ⟨rfl, rfl⟩ := List.cons.inj same
    rw [if_neg (not_or.mpr ⟨notControl, notBackslash⟩)]

theorem scanString?_letter {letter : Char} (notUnit : letter ≠ 'u') (rest : List Char) :
    scanString? ('\\' :: letter :: rest) =
      withPiece ((escaped? letter).map .char) (scanString? rest) := by
  rw [scanString?]
  rintro a b c d later rfl rfl
  exact notUnit rfl

/-- Written pieces and a quotation mark are scanned as the pieces. -/
theorem scanString?_append {pieces : List Piece} {written : List Char}
    (areWritten : Piece.AreWritten pieces written) (rest : List Char) :
    scanString? (written ++ '"' :: rest) = some (pieces, rest) := by
  induction areWritten with
  | nil => rfl
  | cons first later ih =>
      rw [List.append_assoc]
      cases first with
      | plain notControl notQuote notBackslash =>
          rw [List.singleton_append, scanString?_plain notControl notQuote notBackslash, ih]
          rfl
      | letter means =>
          have notUnit : ∀ letter c, escaped? letter = some c → letter ≠ 'u' := by
            rintro letter c means rfl
            cases means
          rw [List.cons_append, List.singleton_append, scanString?_letter (notUnit _ _ means), ih,
            means]
          rfl
      | unit means =>
          simp only [List.cons_append, List.nil_append, scanString?, means, ih]
          rfl

/-! ## Digits -/

/-- Digits, at least one. -/
structure AreDigits (digits : List Char) : Prop where
  nonempty : digits ≠ []
  all_digits : ∀ c ∈ digits, Decimal.isDigit c = true

/-- No digit comes first. -/
def NoDigitFirst (rest : List Char) : Prop := ∀ c ∈ rest.head?, Decimal.isDigit c = false

theorem scanDigits?_append {digits rest : List Char} (areDigits : AreDigits digits)
    (stops : NoDigitFirst rest) : scanDigits? (digits ++ rest) = some (digits, rest) := by
  have none_taken : rest.takeWhile Decimal.isDigit = [] := by
    cases rest with
    | nil => rfl
    | cons c later => rw [List.takeWhile_cons, stops c rfl]; rfl
  have none_dropped : rest.dropWhile Decimal.isDigit = rest := by
    cases rest with
    | nil => rfl
    | cons c later => rw [List.dropWhile_cons, stops c rfl]; rfl
  have taken : (digits ++ rest).takeWhile Decimal.isDigit = digits := by
    rw [List.takeWhile_append_of_pos areDigits.all_digits, none_taken, List.append_nil]
  have dropped : (digits ++ rest).dropWhile Decimal.isDigit = rest := by
    rw [List.dropWhile_append_of_pos areDigits.all_digits, none_dropped]
  unfold scanDigits?
  rw [taken, dropped]
  cases digits with
  | nil => exact absurd rfl areDigits.nonempty
  | cons c others => rfl

/-! ## Numerals -/

/-- The digits before the point: a zero, or digits that do not start with one. -/
inductive IsWhole : List Char → Prop
  | zero : IsWhole ['0']
  | digits {digits : List Char} (areDigits : AreDigits digits) (start : digits.head? ≠ some '0') :
      IsWhole digits

/-- The digits after the point are written as a text. -/
inductive IsFraction : List Char → List Char → Prop
  | none : IsFraction [] []
  | digits {digits : List Char} (areDigits : AreDigits digits) : IsFraction digits ('.' :: digits)

/-- An exponent is written as a text. -/
inductive IsExponent : Option (Bool × List Char) → List Char → Prop
  | none : IsExponent none []
  | plain {mark : Char} {digits : List Char} (isMark : mark = 'e' ∨ mark = 'E')
      (areDigits : AreDigits digits) : IsExponent (some (false, digits)) (mark :: digits)
  | plus {mark : Char} {digits : List Char} (isMark : mark = 'e' ∨ mark = 'E')
      (areDigits : AreDigits digits) : IsExponent (some (false, digits)) (mark :: '+' :: digits)
  | minus {mark : Char} {digits : List Char} (isMark : mark = 'e' ∨ mark = 'E')
      (areDigits : AreDigits digits) : IsExponent (some (true, digits)) (mark :: '-' :: digits)

/-- A numeral is written as a text. -/
inductive Numeral.IsWritten : Numeral → List Char → Prop
  | positive {whole fraction point power : List Char} {exponent : Option (Bool × List Char)}
      (isWhole : IsWhole whole) (isFraction : IsFraction fraction point)
      (isExponent : IsExponent exponent power) :
      IsWritten ⟨false, whole, fraction, exponent⟩ (whole ++ (point ++ power))
  | negative {whole fraction point power : List Char} {exponent : Option (Bool × List Char)}
      (isWhole : IsWhole whole) (isFraction : IsFraction fraction point)
      (isExponent : IsExponent exponent power) :
      IsWritten ⟨true, whole, fraction, exponent⟩ ('-' :: (whole ++ (point ++ power)))

/-- A character that goes on with a numeral. -/
def goesOnNumeral (c : Char) : Bool := Decimal.isDigit c || c == '.' || c == 'e' || c == 'E'

/-- What follows does not go on with a numeral. -/
def StopsNumeral (rest : List Char) : Prop := ∀ c ∈ rest.head?, goesOnNumeral c = false

theorem stopsNumeral_nil : StopsNumeral [] := by
  rintro c ⟨⟩

theorem stopsNumeral_cons {c : Char} (stops : goesOnNumeral c = false) (rest : List Char) :
    StopsNumeral (c :: rest) := by
  rintro c ⟨⟩
  exact stops

/-- What does not go on with a numeral is no digit, no point and no mark of an exponent. -/
theorem StopsNumeral.none {rest : List Char} (stops : StopsNumeral rest) :
    NoDigitFirst rest ∧ rest.head? ≠ some '.' ∧ rest.head? ≠ some 'e' ∧ rest.head? ≠ some 'E' := by
  refine ⟨?_, ?_, ?_, ?_⟩
  · intro c first
    have stopped := stops c first
    simp only [goesOnNumeral, Bool.or_eq_false_iff] at stopped
    exact stopped.1.1.1
  · intro first
    exact absurd (stops _ first) (by decide)
  · intro first
    exact absurd (stops _ first) (by decide)
  · intro first
    exact absurd (stops _ first) (by decide)

theorem AreDigits.start {digits : List Char} (areDigits : AreDigits digits) :
    ∃ c others, digits = c :: others ∧ Decimal.isDigit c = true := by
  cases digits with
  | nil => exact absurd rfl areDigits.nonempty
  | cons c others => exact ⟨c, others, rfl, areDigits.all_digits c (List.mem_cons_self ..)⟩

theorem IsWhole.start {whole : List Char} (isWhole : IsWhole whole) :
    ∃ c others, whole = c :: others ∧ Decimal.isDigit c = true := by
  cases isWhole with
  | zero => exact ⟨'0', [], rfl, by decide⟩
  | digits areDigits _ => exact areDigits.start

/-- A numeral starts with a minus or with a digit. -/
theorem Numeral.IsWritten.start {numeral : Numeral} {written : List Char}
    (isWritten : numeral.IsWritten written) :
    ∃ c others, written = c :: others ∧ (c = '-' ∨ Decimal.isDigit c = true) := by
  cases isWritten with
  | positive isWhole _ _ =>
      obtain ⟨c, others, rfl, digit⟩ := isWhole.start
      exact ⟨c, _, rfl, .inr digit⟩
  | negative _ _ _ => exact ⟨'-', _, rfl, .inl rfl⟩

theorem scanWhole?_append {whole rest : List Char} (isWhole : IsWhole whole)
    (stops : NoDigitFirst rest) : scanWhole? (whole ++ rest) = some (whole, rest) := by
  cases isWhole with
  | zero => rfl
  | digits areDigits start =>
      rw [← scanDigits?_append areDigits stops]
      obtain ⟨c, others, rfl, _⟩ := areDigits.start
      unfold scanWhole?
      split
      · next zero =>
        rw [(List.cons.inj zero).1] at start
        exact absurd rfl start
      · rfl

theorem scanFraction?_append {fraction point rest : List Char}
    (isFraction : IsFraction fraction point) (stops : NoDigitFirst rest)
    (noPoint : rest.head? ≠ some '.') :
    scanFraction? (point ++ rest) = some (fraction, rest) := by
  cases isFraction with
  | none =>
      rw [List.nil_append]
      unfold scanFraction?
      split
      · exact absurd rfl noPoint
      · rfl
  | digits areDigits => exact scanDigits?_append areDigits stops

theorem scanExponent?_append {exponent : Option (Bool × List Char)} {power rest : List Char}
    (isExponent : IsExponent exponent power) (stops : StopsNumeral rest) :
    scanExponent? (power ++ rest) = some (exponent, rest) := by
  obtain ⟨noDigit, _, noSmall, noLarge⟩ := stops.none
  cases isExponent with
  | none =>
      rw [List.nil_append]
      cases rest with
      | nil => rfl
      | cons c later =>
          have noMark : ¬(c = 'e' ∨ c = 'E') := by
            rintro (rfl | rfl)
            · exact noSmall rfl
            · exact noLarge rfl
          simp only [scanExponent?, if_neg noMark]
  | plain isMark areDigits =>
      -- Without a sign the digits come first, and no digit is a sign.
      have unsigned : ∀ digits : List Char, AreDigits digits →
          scanSign (digits ++ rest) = (false, digits ++ rest) := by
        intro digits areDigits
        obtain ⟨c, others, rfl, digit⟩ := areDigits.start
        unfold scanSign
        split
        · next minus =>
          rw [(List.cons.inj minus).1] at digit
          cases digit
        · next plus =>
          rw [(List.cons.inj plus).1] at digit
          cases digit
        · rfl
      simp only [List.cons_append, scanExponent?, if_pos isMark, unsigned _ areDigits,
        scanDigits?_append areDigits noDigit]
  | plus isMark areDigits =>
      simp only [List.cons_append, scanExponent?, if_pos isMark, scanSign,
        scanDigits?_append areDigits noDigit]
  | minus isMark areDigits =>
      simp only [List.cons_append, scanExponent?, if_pos isMark, scanSign,
        scanDigits?_append areDigits noDigit]

/-- An exponent, or what follows without one, starts with no digit and no point. -/
theorem IsExponent.noDigitFirst {exponent : Option (Bool × List Char)} {power rest : List Char}
    (isExponent : IsExponent exponent power) (stops : StopsNumeral rest) :
    NoDigitFirst (power ++ rest) ∧ (power ++ rest).head? ≠ some '.' := by
  have marked : ∀ {mark : Char} (digits : List Char), mark = 'e' ∨ mark = 'E' →
      NoDigitFirst (mark :: digits) ∧ (mark :: digits).head? ≠ some '.' := by
    rintro mark digits (rfl | rfl)
    · exact ⟨by rintro c ⟨⟩; decide, by simp⟩
    · exact ⟨by rintro c ⟨⟩; decide, by simp⟩
  cases isExponent with
  | none => exact ⟨stops.none.1, stops.none.2.1⟩
  | plain isMark _ => exact marked _ isMark
  | plus isMark _ => exact marked _ isMark
  | minus isMark _ => exact marked _ isMark

theorem IsFraction.noDigitFirst {fraction point rest : List Char}
    (isFraction : IsFraction fraction point) (stops : NoDigitFirst rest) :
    NoDigitFirst (point ++ rest) := by
  cases isFraction with
  | none => exact stops
  | digits _ =>
      rintro c ⟨⟩
      decide

theorem scanMagnitude?_append {whole fraction point power rest : List Char}
    {exponent : Option (Bool × List Char)} (isWhole : IsWhole whole)
    (isFraction : IsFraction fraction point) (isExponent : IsExponent exponent power)
    (stops : StopsNumeral rest) (negative : Bool) :
    scanMagnitude? negative (whole ++ (point ++ power) ++ rest) =
      some (⟨negative, whole, fraction, exponent⟩, rest) := by
  obtain ⟨noDigit, noPoint⟩ := isExponent.noDigitFirst stops
  rw [List.append_assoc, List.append_assoc, scanMagnitude?,
    scanWhole?_append isWhole (isFraction.noDigitFirst noDigit)]
  simp only [scanFraction?_append isFraction noDigit noPoint,
    scanExponent?_append isExponent stops]

/-- A written numeral is scanned as the numeral, if what follows does not go on with it. -/
theorem scanNumeral?_append {numeral : Numeral} {written rest : List Char}
    (isWritten : numeral.IsWritten written) (stops : StopsNumeral rest) :
    scanNumeral? (written ++ rest) = some (numeral, rest) := by
  cases isWritten with
  | positive isWhole isFraction isExponent =>
      rw [← scanMagnitude?_append isWhole isFraction isExponent stops]
      obtain ⟨c, others, rfl, digit⟩ := isWhole.start
      unfold scanNumeral?
      split
      · next minus =>
        rw [(List.cons.inj minus).1] at digit
        cases digit
      · rfl
  | negative isWhole isFraction isExponent =>
      exact scanMagnitude?_append isWhole isFraction isExponent stops true

/-! ## Tokens -/

/-- A token is written as a text. -/
inductive Token.IsWritten : Token → List Char → Prop
  | openBrace : IsWritten .openBrace ['{']
  | closeBrace : IsWritten .closeBrace ['}']
  | openBracket : IsWritten .openBracket ['[']
  | closeBracket : IsWritten .closeBracket [']']
  | colon : IsWritten .colon [':']
  | comma : IsWritten .comma [',']
  | null : IsWritten .null ['n', 'u', 'l', 'l']
  | yes : IsWritten (.bool true) ['t', 'r', 'u', 'e']
  | no : IsWritten (.bool false) ['f', 'a', 'l', 's', 'e']
  | string {pieces : List Piece} {written : List Char}
      (areWritten : Piece.AreWritten pieces written) :
      IsWritten (.string pieces) ('"' :: (written ++ ['"']))
  | number {numeral : Numeral} {written : List Char} (isWritten : numeral.IsWritten written) :
      IsWritten (.number numeral) written

/-- A numeral ends before what follows it; other tokens end by themselves. -/
def Token.EndsBefore (token : Token) (rest : List Char) : Prop :=
  ∀ numeral, token = .number numeral → StopsNumeral rest

theorem Token.endsBefore_of_stops {rest : List Char} (stops : StopsNumeral rest) (token : Token) :
    token.EndsBefore rest := fun _ _ => stops

/-- A written token is scanned as the token. -/
theorem Token.scan?_append {token : Token} {written rest : List Char}
    (isWritten : token.IsWritten written) (ends : token.EndsBefore rest) :
    Token.scan? (written ++ rest) = some (token, rest) := by
  cases isWritten with
  | string areWritten =>
      have scanned := scanString?_append areWritten rest
      rw [List.cons_append, List.append_assoc, List.singleton_append, Token.scan?, scanned]
      rfl
  | number isWritten =>
      have scanned := scanNumeral?_append isWritten (ends _ rfl)
      obtain ⟨c, others, rfl, start⟩ := isWritten.start
      rw [List.cons_append] at scanned ⊢
      -- No other token starts with a minus or a digit.
      have other : ∀ mark : Char, mark ≠ '-' → Decimal.isDigit mark = false → c ≠ mark := by
        rintro mark notMinus notDigit rfl
        rcases start with minus | digit
        · exact notMinus minus
        · rw [notDigit] at digit
          cases digit
      unfold Token.scan?
      split
      case h_11 =>
        rw [scanned]
        rfl
      all_goals
        next same =>
        exact absurd (List.cons.inj same).1 (other _ (by decide) (by decide))
  | _ => rfl

/-! ## Rows of tokens -/

/-- Tokens are written one after the other, with any blanks before each and at the end. -/
inductive Token.AreWritten : List Token → List Char → Prop
  | nil {blanks : List Char} (blank : ∀ c ∈ blanks, isSpace c = true) : AreWritten [] blanks
  | cons {token : Token} {tokens : List Token} {blanks written rest : List Char}
      (blank : ∀ c ∈ blanks, isSpace c = true) (first : token.IsWritten written)
      (ends : token.EndsBefore rest) (later : AreWritten tokens rest) :
      AreWritten (token :: tokens) (blanks ++ (written ++ rest))

/-- More blanks may come first. -/
theorem Token.AreWritten.blanks {tokens : List Token} {text blanks : List Char}
    (areWritten : Token.AreWritten tokens text) (blank : ∀ c ∈ blanks, isSpace c = true) :
    Token.AreWritten tokens (blanks ++ text) := by
  cases areWritten with
  | nil blank' =>
      refine .nil ?_
      intro c mem
      rcases List.mem_append.mp mem with mem | mem
      · exact blank c mem
      · exact blank' c mem
  | cons blank' first ends later =>
      rw [← List.append_assoc]
      refine .cons ?_ first ends later
      intro c mem
      rcases List.mem_append.mp mem with mem | mem
      · exact blank c mem
      · exact blank' c mem

/-- A token without blanks before it. -/
theorem Token.AreWritten.token {token : Token} {tokens : List Token} {written rest : List Char}
    (first : token.IsWritten written) (ends : token.EndsBefore rest)
    (later : Token.AreWritten tokens rest) :
    Token.AreWritten (token :: tokens) (written ++ rest) := by
  have noBlanks : ∀ c ∈ ([] : List Char), isSpace c = true := by simp
  exact .cons noBlanks first ends later

/-- A token starts with a character that is not blank. -/
theorem Token.IsWritten.start {token : Token} {written : List Char}
    (isWritten : token.IsWritten written) :
    ∃ c others, written = c :: others ∧ isSpace c = false := by
  cases isWritten with
  | number isWritten =>
      obtain ⟨c, others, rfl, start⟩ := isWritten.start
      refine ⟨c, others, rfl, ?_⟩
      rcases start with rfl | digit
      · decide
      · cases blank : isSpace c with
        | false => rfl
        | true =>
            simp only [isSpace, Bool.or_eq_true, beq_iff_eq] at blank
            rcases blank with ((rfl | rfl) | rfl) | rfl <;> cases digit
  | _ => exact ⟨_, _, rfl, by decide⟩

theorem Token.scanAll?_nil {text : List Char} (none_left : text.dropWhile isSpace = []) :
    Token.scanAll? text = some [] := by
  rw [Token.scanAll?]
  split
  · rfl
  · next left => rw [none_left] at left; cases left

theorem Token.scanAll?_cons {text rest left : List Char} {c : Char} {token : Token}
    (dropped : text.dropWhile isSpace = c :: rest)
    (scanned : Token.scan? (c :: rest) = some (token, left)) :
    Token.scanAll? text = (Token.scanAll? left).map (token :: ·) := by
  rw [Token.scanAll?]
  split
  · next none_left => rw [dropped] at none_left; cases none_left
  · next c' rest' same =>
    rw [dropped] at same
    cases same
    split
    · next failed => rw [scanned] at failed; cases failed
    · next token' left' taken =>
      rw [scanned] at taken
      cases taken
      rfl

/-- **A text in which tokens are written is scanned as the tokens.** -/
theorem Token.scanAll?_of_areWritten {tokens : List Token} {text : List Char}
    (areWritten : Token.AreWritten tokens text) : Token.scanAll? text = some tokens := by
  induction areWritten with
  | nil blank =>
      refine Token.scanAll?_nil ?_
      exact List.dropWhile_eq_nil_iff.mpr blank
  | cons blank first ends later ih =>
      obtain ⟨c, others, rfl, notBlank⟩ := first.start
      have scanned := Token.scan?_append first ends
      rw [List.cons_append] at scanned ⊢
      rw [Token.scanAll?_cons _ scanned, ih]
      · rfl
      · rw [List.dropWhile_append_of_pos blank, List.dropWhile_cons, notBlank]
        rfl

end ElectionReadiness.Json
