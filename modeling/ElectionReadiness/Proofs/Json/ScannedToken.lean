import ElectionReadiness.Proofs.Json.WrittenToken

/-!
# What scanning takes is written

Each scan takes a part off the front of a text only if that part is written there, and leaves
the rest: `scanString?_eq_some` for strings, `scanNumeral?_eq_some` for numerals and
`Token.scan?_eq_some` for tokens.  A text that is scanned to its end is therefore a row of
its tokens with blanks between (`Token.isRow_of_scanAll?`).  Two numerals may stand in a row
without a blank, as in a text that starts with a zero; no tree has such tokens.
-/

set_option autoImplicit false

namespace ElectionReadiness.Json

/-! ## Strings -/

theorem scanString?_eq_some {text left : List Char} {pieces : List Piece}
    (scanned : scanString? text = some (pieces, left)) :
    ∃ written, Piece.AreWritten pieces written ∧ text = written ++ '"' :: left := by
  fun_induction scanString? text generalizing pieces with
  | case1 => cases scanned
  | case2 rest =>
      cases scanned
      exact ⟨[], .nil, rfl⟩
  | case3 a b c d rest ih =>
      obtain ⟨first, others, read, later, rfl⟩ := withPiece_eq_some scanned
      obtain ⟨code, means, rfl⟩ := Option.map_eq_some_iff.mp read
      obtain ⟨written, areWritten, rfl⟩ := ih later
      exact ⟨_, .cons (.unit means) areWritten, rfl⟩
  | case4 letter rest _ ih =>
      obtain ⟨first, others, read, later, rfl⟩ := withPiece_eq_some scanned
      obtain ⟨c, means, rfl⟩ := Option.map_eq_some_iff.mp read
      obtain ⟨written, areWritten, rfl⟩ := ih later
      exact ⟨_, .cons (.letter means) areWritten, rfl⟩
  | case5 => cases scanned
  | case6 c rest notQuote _ _ plain ih =>
      obtain ⟨first, others, read, later, rfl⟩ := withPiece_eq_some scanned
      cases read
      obtain ⟨notControl, notBackslash⟩ := not_or.mp plain
      obtain ⟨written, areWritten, rfl⟩ := ih later
      exact ⟨_, .cons (.plain notControl notQuote notBackslash) areWritten, rfl⟩

/-! ## Numerals -/

theorem scanDigits?_eq_some {text digits left : List Char}
    (scanned : scanDigits? text = some (digits, left)) :
    AreDigits digits ∧ text = digits ++ left := by
  unfold scanDigits? at scanned
  split at scanned
  · cases scanned
  · next taken =>
    simp only [Option.some.injEq, Prod.mk.injEq] at scanned
    obtain ⟨rfl, rfl⟩ := scanned
    exact ⟨⟨taken, fun c mem => List.mem_takeWhile_imp mem⟩,
      List.takeWhile_append_dropWhile.symm⟩

theorem scanWhole?_eq_some {text whole left : List Char}
    (scanned : scanWhole? text = some (whole, left)) : IsWhole whole ∧ text = whole ++ left := by
  unfold scanWhole? at scanned
  split at scanned
  · cases scanned
    exact ⟨.zero, rfl⟩
  · next noZero =>
    obtain ⟨areDigits, rfl⟩ := scanDigits?_eq_some scanned
    refine ⟨.digits areDigits ?_, rfl⟩
    obtain ⟨c, others, rfl, _⟩ := areDigits.start
    rintro ⟨⟩
    exact noZero _ rfl

theorem scanFraction?_eq_some {text fraction left : List Char}
    (scanned : scanFraction? text = some (fraction, left)) :
    ∃ point, IsFraction fraction point ∧ text = point ++ left := by
  unfold scanFraction? at scanned
  split at scanned
  · obtain ⟨areDigits, rfl⟩ := scanDigits?_eq_some scanned
    exact ⟨_, .digits areDigits, rfl⟩
  · cases scanned
    exact ⟨[], .none, rfl⟩

theorem scanExponent?_eq_some {text left : List Char} {exponent : Option (Bool × List Char)}
    (scanned : scanExponent? text = some (exponent, left)) :
    ∃ power, IsExponent exponent power ∧ text = power ++ left := by
  unfold scanExponent? at scanned
  split at scanned
  · next mark rest =>
    split at scanned
    · next isMark =>
      split at scanned
      · cases scanned
      · next digits later taken =>
        cases scanned
        unfold scanSign at taken ⊢
        split at taken
        · obtain ⟨areDigits, rfl⟩ := scanDigits?_eq_some taken
          exact ⟨_, .minus isMark areDigits, rfl⟩
        · obtain ⟨areDigits, rfl⟩ := scanDigits?_eq_some taken
          exact ⟨_, .plus isMark areDigits, rfl⟩
        · obtain ⟨areDigits, rfl⟩ := scanDigits?_eq_some taken
          exact ⟨_, .plain isMark areDigits, rfl⟩
    · cases scanned
      exact ⟨[], .none, rfl⟩
  · cases scanned
    exact ⟨[], .none, rfl⟩

theorem scanMagnitude?_eq_some {negative : Bool} {text left : List Char} {numeral : Numeral}
    (scanned : scanMagnitude? negative text = some (numeral, left)) :
    ∃ whole fraction point exponent power, IsWhole whole ∧ IsFraction fraction point ∧
      IsExponent exponent power ∧ numeral = ⟨negative, whole, fraction, exponent⟩ ∧
      text = whole ++ (point ++ power) ++ left := by
  unfold scanMagnitude? at scanned
  split at scanned
  · cases scanned
  · next whole afterWhole takenWhole =>
    split at scanned
    · cases scanned
    · next fraction afterFraction takenFraction =>
      split at scanned
      · cases scanned
      · next exponent later takenExponent =>
        cases scanned
        obtain ⟨isWhole, rfl⟩ := scanWhole?_eq_some takenWhole
        obtain ⟨point, isFraction, rfl⟩ := scanFraction?_eq_some takenFraction
        obtain ⟨power, isExponent, rfl⟩ := scanExponent?_eq_some takenExponent
        exact ⟨whole, fraction, point, exponent, power, isWhole, isFraction, isExponent, rfl,
          by simp only [List.append_assoc]⟩

theorem scanNumeral?_eq_some {text left : List Char} {numeral : Numeral}
    (scanned : scanNumeral? text = some (numeral, left)) :
    ∃ written, numeral.IsWritten written ∧ text = written ++ left := by
  unfold scanNumeral? at scanned
  split at scanned
  · obtain ⟨_, _, _, _, _, isWhole, isFraction, isExponent, rfl, rfl⟩ :=
      scanMagnitude?_eq_some scanned
    exact ⟨_, .negative isWhole isFraction isExponent, rfl⟩
  · obtain ⟨_, _, _, _, _, isWhole, isFraction, isExponent, rfl, rfl⟩ :=
      scanMagnitude?_eq_some scanned
    exact ⟨_, .positive isWhole isFraction isExponent, rfl⟩

/-! ## Tokens -/

/-- A token is taken only where it is written. -/
theorem Token.scan?_eq_some {text left : List Char} {token : Token}
    (scanned : Token.scan? text = some (token, left)) :
    ∃ written, token.IsWritten written ∧ text = written ++ left := by
  unfold Token.scan? at scanned
  split at scanned
  case h_10 rest =>
    obtain ⟨⟨pieces, later⟩, taken, same⟩ := Option.map_eq_some_iff.mp scanned
    cases same
    obtain ⟨written, areWritten, rfl⟩ := scanString?_eq_some taken
    exact ⟨_, .string areWritten, by simp⟩
  case h_11 =>
    obtain ⟨⟨numeral, later⟩, taken, same⟩ := Option.map_eq_some_iff.mp scanned
    cases same
    obtain ⟨written, isWritten, rfl⟩ := scanNumeral?_eq_some taken
    exact ⟨written, .number isWritten, rfl⟩
  all_goals
    cases scanned
    exact ⟨_, by constructor, rfl⟩

/-- Tokens in a row, with any blanks before each and at the end. -/
inductive Token.IsRow : List Token → List Char → Prop
  | nil {blanks : List Char} (blank : ∀ c ∈ blanks, isSpace c = true) : IsRow [] blanks
  | cons {token : Token} {tokens : List Token} {blanks written rest : List Char}
      (blank : ∀ c ∈ blanks, isSpace c = true) (first : token.IsWritten written)
      (later : IsRow tokens rest) : IsRow (token :: tokens) (blanks ++ (written ++ rest))

/-- **A text that is scanned to its end is a row of its tokens.** -/
theorem Token.isRow_of_scanAll? {text : List Char} {tokens : List Token}
    (scanned : Token.scanAll? text = some tokens) : Token.IsRow tokens text := by
  fun_induction Token.scanAll? text generalizing tokens with
  | case1 text dropped =>
      cases scanned
      exact .nil (List.dropWhile_eq_nil_iff.mp dropped)
  | case2 => cases scanned
  | case3 text c rest dropped token left taken ih =>
      obtain ⟨others, later, rfl⟩ := Option.map_eq_some_iff.mp scanned
      obtain ⟨written, isWritten, split⟩ := Token.scan?_eq_some taken
      have whole : text = text.takeWhile isSpace ++ (written ++ left) := by
        rw [← split, ← dropped, List.takeWhile_append_dropWhile]
      rw [whole]
      exact .cons (fun c mem => List.mem_takeWhile_imp mem) isWritten (ih later)

end ElectionReadiness.Json
