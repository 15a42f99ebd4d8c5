import ElectionReadiness.Json.Spelling

/-!
# What the pieces of a string stand for

A character beyond the first plane has two halves, and its units must stand together
(`Piece.StandFor`).  Decoding finds the text that pieces stand for, and fails exactly if there
is none, so half a character alone stands for nothing (`decode?_eq_some_iff`).
-/

set_option autoImplicit false

namespace ElectionReadiness.Json

/-- The unit that comes first of a character beyond the first plane. -/
def firstHalf (c : Char) : Nat := 0xD800 + (c.toNat - 0x10000) / 0x400

/-- The unit that comes second of a character beyond the first plane. -/
def secondHalf (c : Char) : Nat := 0xDC00 + (c.toNat - 0x10000) % 0x400

/-- Pieces stand for a text: each for its character, and two halves together for theirs. -/
inductive Piece.StandFor : List Piece → List Char → Prop
  | nil : StandFor [] []
  | char {c : Char} {pieces : List Piece} {text : List Char} (later : StandFor pieces text) :
      StandFor (.char c :: pieces) (c :: text)
  | unit {code : Nat} {pieces : List Piece} {text : List Char}
      (noHalf : code < 0xD800 ∨ 0xDFFF < code) (later : StandFor pieces text) :
      StandFor (.unit code :: pieces) (Char.ofNat code :: text)
  | halves {c : Char} {pieces : List Piece} {text : List Char} (beyond : 0x10000 ≤ c.toNat)
      (later : StandFor pieces text) :
      StandFor (.unit (firstHalf c) :: .unit (secondHalf c) :: pieces) (c :: text)

/-! ## Halves -/

theorem isHighHalf_iff {code : Nat} : isHighHalf code = true ↔ 0xD800 ≤ code ∧ code ≤ 0xDBFF := by
  simp [isHighHalf]

theorem isLowHalf_iff {code : Nat} : isLowHalf code = true ↔ 0xDC00 ≤ code ∧ code ≤ 0xDFFF := by
  simp [isLowHalf]

theorem toNat_lt (c : Char) : c.toNat < 0x110000 := by
  have valid := c.valid
  simp only [UInt32.isValidChar, Nat.isValidChar] at valid
  simp only [Char.toNat]
  omega

theorem toNat_ofNat {code : Nat} (valid : code.isValidChar) : (Char.ofNat code).toNat = code := by
  rw [Char.ofNat, dif_pos valid]
  rfl

theorem isHighHalf_firstHalf (c : Char) : isHighHalf (firstHalf c) = true := by
  have bound := toNat_lt c
  rw [isHighHalf_iff, firstHalf]
  omega

theorem isLowHalf_secondHalf (c : Char) : isLowHalf (secondHalf c) = true := by
  rw [isLowHalf_iff, secondHalf]
  omega

/-- The halves of a character are joined to the character. -/
theorem joinedHalves_halves {c : Char} (beyond : 0x10000 ≤ c.toNat) :
    joinedHalves (firstHalf c) (secondHalf c) = c := by
  have code : 0x10000 + 0x400 * (firstHalf c - 0xD800) + (secondHalf c - 0xDC00) = c.toNat := by
    rw [firstHalf, secondHalf]
    omega
  rw [joinedHalves, code, Char.ofNat_toNat]

/-- Halves are joined to a character whose halves they are. -/
theorem exists_halves {high low : Nat} (isHigh : isHighHalf high = true)
    (isLow : isLowHalf low = true) :
    0x10000 ≤ (joinedHalves high low).toNat ∧ firstHalf (joinedHalves high low) = high ∧
      secondHalf (joinedHalves high low) = low := by
  rw [isHighHalf_iff] at isHigh
  rw [isLowHalf_iff] at isLow
  have valid : (0x10000 + 0x400 * (high - 0xD800) + (low - 0xDC00)).isValidChar := by
    right
    omega
  have code : (joinedHalves high low).toNat =
      0x10000 + 0x400 * (high - 0xD800) + (low - 0xDC00) := toNat_ofNat valid
  rw [firstHalf, secondHalf, code]
  omega

/-! ## Decoding -/

theorem standFor_of_decode? {pieces : List Piece} {text : List Char}
    (decoded : decode? pieces = some text) : Piece.StandFor pieces text := by
  fun_induction decode? pieces generalizing text with
  | case1 =>
      cases decoded
      exact .nil
  | case2 c rest ih =>
      obtain ⟨later, decodedLater, rfl⟩ := Option.map_eq_some_iff.mp decoded
      exact .char (ih decodedLater)
  | case3 high isHigh low later isLow ih =>
      obtain ⟨others, decodedLater, rfl⟩ := Option.map_eq_some_iff.mp decoded
      obtain ⟨beyond, first, second⟩ := exists_halves isHigh isLow
      have halves := Piece.StandFor.halves beyond (ih decodedLater)
      rwa [first, second] at halves
  | case4 => cases decoded
  | case5 => cases decoded
  | case6 => cases decoded
  | case7 code rest notHigh notLow ih =>
      obtain ⟨later, decodedLater, rfl⟩ := Option.map_eq_some_iff.mp decoded
      refine .unit ?_ (ih decodedLater)
      rw [isHighHalf_iff] at notHigh
      rw [isLowHalf_iff] at notLow
      omega

theorem decode?_of_standFor {pieces : List Piece} {text : List Char}
    (standFor : Piece.StandFor pieces text) : decode? pieces = some text := by
  induction standFor with
  | nil => rfl
  | char _ ih =>
      rw [decode?, ih]
      rfl
  | @unit code _ _ noHalf _ ih =>
      have notHigh : ¬isHighHalf code = true := by
        rw [isHighHalf_iff]
        omega
      have notLow : ¬isLowHalf code = true := by
        rw [isLowHalf_iff]
        omega
      rw [decode?.eq_def]
      simp only [if_neg notHigh, if_neg notLow, ih, Option.map_some]
  | @halves c _ _ beyond _ ih =>
      rw [decode?]
      simp only [if_pos (isHighHalf_firstHalf c), if_pos (isLowHalf_secondHalf c), ih,
        Option.map_some, joinedHalves_halves beyond]

/-- **Pieces are decoded as the text that they stand for.** -/
theorem decode?_eq_some_iff {pieces : List Piece} {text : List Char} :
    decode? pieces = some text ↔ Piece.StandFor pieces text :=
  ⟨standFor_of_decode?, decode?_of_standFor⟩

theorem decodeString?_eq_some_iff {pieces : List Piece} {text : String} :
    decodeString? pieces = some text ↔ Piece.StandFor pieces text.toList := by
  rw [decodeString?, Option.map_eq_some_iff, ← decode?_eq_some_iff]
  constructor
  · rintro ⟨characters, decoded, rfl⟩
    rwa [String.toList_ofList]
  · intro decoded
    exact ⟨text.toList, decoded, String.ofList_toList⟩

end ElectionReadiness.Json
