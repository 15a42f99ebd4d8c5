import ElectionReadiness.Json.Token
import ElectionReadiness.Text.Decimal
import ElectionReadiness.Text.Hexadecimal

/-!
# Scanning JSON

The tokens of a JSON text.  Blanks may stand between tokens and do not count.  Each
scan takes one token, or one part of it, off the front and leaves the rest, which is
never longer and shorter if a token was taken; so `Token.scanAll?` comes to an end.
-/

set_option autoImplicit false

namespace ElectionReadiness.Json

/-- The blanks of JSON. -/
def isSpace (c : Char) : Bool := c == ' ' || c == '\t' || c == '\n' || c == '\r'

/-! ## Numerals -/

/-- Takes one digit or more. -/
def scanDigits? (text : List Char) : Option (List Char × List Char) :=
  match text.takeWhile Decimal.isDigit with
  | [] => none
  | digits => some (digits, text.dropWhile Decimal.isDigit)

/-- Takes the digits before the point: a zero, or digits that do not start with
one. -/
def scanWhole? : List Char → Option (List Char × List Char)
  | '0' :: rest => some (['0'], rest)
  | text => scanDigits? text

/-- Takes a point and the digits after it, if there is a point. -/
def scanFraction? : List Char → Option (List Char × List Char)
  | '.' :: rest => scanDigits? rest
  | text => some ([], text)

/-- Takes a sign off; true for a minus. -/
def scanSign : List Char → Bool × List Char
  | '-' :: rest => (true, rest)
  | '+' :: rest => (false, rest)
  | text => (false, text)

/-- Takes an exponent, if there is one. -/
def scanExponent? (text : List Char) : Option (Option (Bool × List Char) × List Char) :=
  match text with
  | c :: rest =>
    if c = 'e' ∨ c = 'E' then
      match scanDigits? (scanSign rest).2 with
      | none => none
      | some (digits, left) => some (some ((scanSign rest).1, digits), left)
    else some (none, text)
  | [] => some (none, [])

/-- Takes a numeral after its sign. -/
def scanMagnitude? (negative : Bool) (text : List Char) : Option (Numeral × List Char) :=
  match scanWhole? text with
  | none => none
  | some (whole, afterWhole) =>
    match scanFraction? afterWhole with
    | none => none
    | some (fraction, afterFraction) =>
      match scanExponent? afterFraction with
      | none => none
      | some (exponent, left) => some (⟨negative, whole, fraction, exponent⟩, left)

/-- Takes a numeral. -/
def scanNumeral? : List Char → Option (Numeral × List Char)
  | '-' :: rest => scanMagnitude? true rest
  | text => scanMagnitude? false text

/-! ## Strings -/

/-- The character that a letter after a backslash stands for. -/
def escaped? : Char → Option Char
  | '"' => some '"'
  | '\\' => some '\\'
  | '/' => some '/'
  | 'b' => some '\x08'
  | 'f' => some '\x0c'
  | 'n' => some '\n'
  | 'r' => some '\r'
  | 't' => some '\t'
  | _ => none

/-- The number that four hexadecimal digits stand for. -/
def unit? (a b c d : Char) : Option Nat :=
  match Hexadecimal.digitValue? a, Hexadecimal.digitValue? b, Hexadecimal.digitValue? c,
    Hexadecimal.digitValue? d with
  | some i, some j, some k, some l => some (4096 * i + 256 * j + 16 * k + l)
  | _, _, _, _ => none

/-- Puts a piece before those that a scan took. -/
def withPiece (piece : Option Piece) (scanned : Option (List Piece × List Char)) :
    Option (List Piece × List Char) :=
  match piece, scanned with
  | some first, some (others, left) => some (first :: others, left)
  | _, _ => none

/-- Takes a string after its opening quotation mark. -/
def scanString? : List Char → Option (List Piece × List Char)
  | [] => none
  | '"' :: rest => some ([], rest)
  | '\\' :: 'u' :: a :: b :: c :: d :: rest =>
    withPiece ((unit? a b c d).map .unit) (scanString? rest)
  | '\\' :: letter :: rest => withPiece ((escaped? letter).map .char) (scanString? rest)
  | c :: rest =>
    if c.toNat < 0x20 ∨ c = '\\' then none else withPiece (some (.char c)) (scanString? rest)

/-! ## Tokens -/

/-- Takes a token off a text that does not start with a blank. -/
def Token.scan? : List Char → Option (Token × List Char)
  | '{' :: rest => some (.openBrace, rest)
  | '}' :: rest => some (.closeBrace, rest)
  | '[' :: rest => some (.openBracket, rest)
  | ']' :: rest => some (.closeBracket, rest)
  | ':' :: rest => some (.colon, rest)
  | ',' :: rest => some (.comma, rest)
  | 'n' :: 'u' :: 'l' :: 'l' :: rest => some (.null, rest)
  | 't' :: 'r' :: 'u' :: 'e' :: rest => some (.bool true, rest)
  | 'f' :: 'a' :: 'l' :: 's' :: 'e' :: rest => some (.bool false, rest)
  | '"' :: rest => (scanString? rest).map fun (pieces, left) => (.string pieces, left)
  | text => (scanNumeral? text).map fun (numeral, left) => (.number numeral, left)

/-! ## What is left is shorter -/

theorem scanDigits?_length {text digits left : List Char}
    (h : scanDigits? text = some (digits, left)) : left.length < text.length := by
  unfold scanDigits? at h
  split at h
  · simp at h
  · next taken =>
    simp only [Option.some.injEq, Prod.mk.injEq] at h
    have whole := congrArg List.length (List.takeWhile_append_dropWhile (p := Decimal.isDigit) (l := text))
    rw [List.length_append, h.2] at whole
    have some_taken : (text.takeWhile Decimal.isDigit).length ≠ 0 := by
      intro none_taken
      exact taken (List.length_eq_zero_iff.mp none_taken)
    omega

theorem scanWhole?_length {text whole left : List Char}
    (h : scanWhole? text = some (whole, left)) : left.length < text.length := by
  unfold scanWhole? at h
  split at h
  · simp only [Option.some.injEq, Prod.mk.injEq] at h
    simp [← h.2]
  · exact scanDigits?_length h

theorem scanFraction?_length {text fraction left : List Char}
    (h : scanFraction? text = some (fraction, left)) : left.length ≤ text.length := by
  unfold scanFraction? at h
  split at h
  · have := scanDigits?_length h
    simp only [List.length_cons]
    omega
  · simp only [Option.some.injEq, Prod.mk.injEq] at h
    simp [← h.2]

theorem scanSign_length (text : List Char) : (scanSign text).2.length ≤ text.length := by
  unfold scanSign
  split <;> simp

theorem scanExponent?_length {text left : List Char} {exponent : Option (Bool × List Char)}
    (h : scanExponent? text = some (exponent, left)) : left.length ≤ text.length := by
  unfold scanExponent? at h
  split at h
  · next c rest =>
    split at h
    · split at h
      · simp at h
      · next digits later scanned =>
        simp only [Option.some.injEq, Prod.mk.injEq] at h
        have := scanDigits?_length scanned
        have := scanSign_length rest
        simp only [List.length_cons, ← h.2]
        omega
    · simp only [Option.some.injEq, Prod.mk.injEq] at h
      simp [← h.2]
  · simp only [Option.some.injEq, Prod.mk.injEq] at h
    simp [← h.2]

theorem scanMagnitude?_length {negative : Bool} {text left : List Char} {numeral : Numeral}
    (h : scanMagnitude? negative text = some (numeral, left)) : left.length < text.length := by
  unfold scanMagnitude? at h
  split at h
  · simp at h
  · next whole =>
    split at h
    · simp at h
    · next fraction =>
      split at h
      · simp at h
      · next exponent =>
        simp only [Option.some.injEq, Prod.mk.injEq] at h
        have := scanWhole?_length whole
        have := scanFraction?_length fraction
        have := scanExponent?_length exponent
        rw [← h.2]
        omega

theorem scanNumeral?_length {text left : List Char} {numeral : Numeral}
    (h : scanNumeral? text = some (numeral, left)) : left.length < text.length := by
  unfold scanNumeral? at h
  split at h
  · have := scanMagnitude?_length h
    simp only [List.length_cons]
    omega
  · exact scanMagnitude?_length h

theorem withPiece_eq_some {piece : Option Piece} {scanned : Option (List Piece × List Char)}
    {pieces : List Piece} {left : List Char} (h : withPiece piece scanned = some (pieces, left)) :
    ∃ first others, piece = some first ∧ scanned = some (others, left)
      ∧ pieces = first :: others := by
  unfold withPiece at h
  split at h
  · next first others later =>
    simp only [Option.some.injEq, Prod.mk.injEq] at h
    exact ⟨first, others, rfl, by rw [h.2], h.1.symm⟩
  · simp at h

theorem scanString?_length {text left : List Char} {pieces : List Piece}
    (h : scanString? text = some (pieces, left)) : left.length < text.length := by
  fun_induction scanString? text generalizing pieces with
  | case1 => simp at h
  | case2 rest =>
    simp only [Option.some.injEq, Prod.mk.injEq] at h
    simp [← h.2]
  | case3 a b c d rest ih =>
    obtain ⟨_, others, _, scanned, _⟩ := withPiece_eq_some h
    have := ih scanned
    simp only [List.length_cons]
    omega
  | case4 letter rest _ ih =>
    obtain ⟨_, others, _, scanned, _⟩ := withPiece_eq_some h
    have := ih scanned
    simp only [List.length_cons]
    omega
  | case5 => simp at h
  | case6 c rest _ _ _ _ ih =>
    obtain ⟨_, others, _, scanned, _⟩ := withPiece_eq_some h
    have := ih scanned
    simp only [List.length_cons]
    omega

/-- A token takes up something. -/
theorem Token.scan?_length {text left : List Char} {token : Token}
    (h : Token.scan? text = some (token, left)) : left.length < text.length := by
  unfold Token.scan? at h
  split at h
  case h_10 rest =>
    simp only [Option.map_eq_some_iff, Prod.mk.injEq] at h
    obtain ⟨⟨pieces, later⟩, scanned, _, same⟩ := h
    have := scanString?_length scanned
    simp only [List.length_cons, ← same]
    omega
  case h_11 =>
    simp only [Option.map_eq_some_iff, Prod.mk.injEq] at h
    obtain ⟨⟨numeral, later⟩, scanned, _, same⟩ := h
    exact same ▸ scanNumeral?_length scanned
  all_goals
    simp only [Option.some.injEq, Prod.mk.injEq] at h
    simp only [List.length_cons, ← h.2]
    omega

/-! ## Whole texts -/

/-- The tokens of a text, none if it cannot be split into tokens. -/
def Token.scanAll? (text : List Char) : Option (List Token) :=
  match _ : text.dropWhile isSpace with
  | [] => some []
  | c :: rest =>
    match _ : Token.scan? (c :: rest) with
    | none => none
    | some (token, left) => (Token.scanAll? left).map (token :: ·)
termination_by text.length
decreasing_by
  have shorter := Token.scan?_length ‹Token.scan? (c :: rest) = some (token, left)›
  have skipped := (List.dropWhile_suffix isSpace (l := text)).length_le
  rw [‹text.dropWhile isSpace = c :: rest›] at skipped
  omega

end ElectionReadiness.Json
