import ElectionReadiness.Json.Number
import ElectionReadiness.Proofs.Json.WrittenValue

/-!
# Every number is written as a numeral

What is written of a number is always a numeral of the grammar (`Number.isWritten_write`).  For
whole numbers that is plain.  A floating point number is written by the digits of its shortest
decimal, and these could start with a zero only if the decimal were zero itself: a decimal that
rounds to a size that is not zero is not zero (`Binary64.shortest_zero`).
-/

set_option autoImplicit false

namespace ElectionReadiness.Json

/-! ## The shortest decimal of a size -/

namespace Binary64

theorem powerOfTwo_pos (exponent : Int) : 0 < (powerOfTwo exponent).1 := by
  unfold powerOfTwo
  split
  · exact Nat.pow_pos (by decide)
  · exact Nat.one_pos

theorem powerOfTen_pos (exponent : Int) : 0 < (powerOfTen exponent).2 := by
  unfold powerOfTen
  split
  · exact Nat.one_pos
  · exact Nat.pow_pos (by decide)

/-- The numbers that round to a size that is not zero lie above zero. -/
theorem span_low_pos {size : Binary64} (nonzero : size.isZero = false) : 0 < size.span.low := by
  have positive : 0 < size.significand := by
    rw [isZero, beq_eq_false_iff_ne] at nonzero
    exact Nat.pos_of_ne_zero nonzero
  simp only [span]
  split <;> omega

/-- Digits that end at a place lie among the numbers that round to a size. -/
def roundsTo (size : Binary64) (place : Int) (digits : Nat) : Bool :=
  let unit := (powerOfTwo (size.exponent - 2)).1 * (powerOfTen place).2
  let step := (powerOfTen place).1 * (powerOfTwo (size.exponent - 2)).2
  if size.span.isClosed then
    size.span.low * unit ≤ digits * step && digits * step ≤ size.span.high * unit
  else size.span.low * unit < digits * step && digits * step < size.span.high * unit

/-- Of two decimals that are tried one is found that passes. -/
theorem passes_of_tried {passes : Nat → Bool} {nearer farther : Nat} {place : Int}
    {decimal : ShortDecimal}
    (found : (if passes nearer then some (ShortDecimal.mk nearer place)
      else if passes farther then some ⟨farther, place⟩ else none) = some decimal) :
    passes decimal.digits = true := by
  split at found
  · next nearerPasses =>
    cases found
    exact nearerPasses
  · split at found
    · next fartherPasses =>
      cases found
      exact fartherPasses
    · cases found

theorem roundsTo_of_decimalAt? {size : Binary64} {place : Int} {decimal : ShortDecimal}
    (found : size.decimalAt? place = some decimal) :
    size.roundsTo place decimal.digits = true := passes_of_tried found

theorem decimalAt?_digits_pos {size : Binary64} {place : Int} {decimal : ShortDecimal}
    (nonzero : size.isZero = false) (found : size.decimalAt? place = some decimal) :
    0 < decimal.digits := by
  have rounds := roundsTo_of_decimalAt? found
  have lowEnd : 0 < size.span.low * ((powerOfTwo (size.exponent - 2)).1 * (powerOfTen place).2) :=
    Nat.mul_pos (span_low_pos nonzero) (Nat.mul_pos (powerOfTwo_pos _) (powerOfTen_pos _))
  rw [roundsTo] at rounds
  refine Nat.pos_of_ne_zero fun zero => ?_
  rw [zero, Nat.zero_mul] at rounds
  split at rounds
  · rw [Bool.and_eq_true, decide_eq_true_eq] at rounds
    exact absurd rounds.1 (Nat.not_le_of_lt lowEnd)
  · rw [Bool.and_eq_true, decide_eq_true_eq] at rounds
    exact absurd rounds.1 (Nat.not_lt_zero _)

theorem withoutZeros_digits_pos (most : Nat) {decimal : ShortDecimal}
    (positive : 0 < decimal.digits) : 0 < (withoutZeros most decimal).digits := by
  induction most generalizing decimal with
  | zero => exact positive
  | succ most ih =>
      rw [withoutZeros]
      split
      · next endsInZero =>
        refine ih ?_
        simp only
        omega
      · exact positive

/-- **The shortest decimal is zero itself, or its digits are not zero.** -/
theorem shortest_zero (size : Binary64) :
    size.shortest = ⟨0, 0⟩ ∨ 0 < size.shortest.digits := by
  unfold shortest
  split
  · exact .inl rfl
  · next nonzero =>
    simp only
    split
    · exact .inl rfl
    · next decimal found =>
      obtain ⟨count, _, at_place⟩ := List.exists_of_findSome?_eq_some found
      exact .inr (withoutZeros_digits_pos _
        (decimalAt?_digits_pos (Bool.eq_false_iff.mpr nonzero) at_place))

end Binary64

/-! ## Digits -/

/-- Digits that do not start with a zero. -/
structure AreSignificant (digits : List Char) : Prop where
  areDigits : AreDigits digits
  start : digits.head? ≠ some '0'

theorem AreSignificant.isWhole {digits : List Char} (significant : AreSignificant digits) :
    IsWhole digits := .digits significant.areDigits significant.start

theorem areSignificant_digits {n : Nat} (positive : 0 < n) :
    AreSignificant (Decimal.digits n) := by
  obtain ⟨digits, written, areDigits, start⟩ :=
    exists_digitsFrom (n + 1) n [] (Nat.lt_succ_self n) positive
  rw [Decimal.digits, written, List.append_nil]
  exact ⟨areDigits, start⟩

theorem IsWhole.areDigits {whole : List Char} (isWhole : IsWhole whole) : AreDigits whole := by
  cases isWhole with
  | zero => exact ⟨by simp, List.forall_mem_singleton.mpr rfl⟩
  | digits areDigits _ => exact areDigits

theorem AreDigits.append {digits more : List Char} (areDigits : AreDigits digits)
    (all_digits : ∀ c ∈ more, Decimal.isDigit c = true) : AreDigits (digits ++ more) := by
  refine ⟨List.append_ne_nil_of_left_ne_nil areDigits.nonempty more, ?_⟩
  intro c mem
  rcases List.mem_append.mp mem with mem | mem
  · exact areDigits.all_digits c mem
  · exact all_digits c mem

/-- Some digits of digits. -/
theorem AreDigits.of_subset {digits few : List Char} (areDigits : AreDigits digits)
    (subset : few ⊆ digits) (nonempty : few ≠ []) : AreDigits few :=
  ⟨nonempty, fun c mem => areDigits.all_digits c (subset mem)⟩

theorem AreSignificant.append {digits more : List Char} (significant : AreSignificant digits)
    (all_digits : ∀ c ∈ more, Decimal.isDigit c = true) : AreSignificant (digits ++ more) := by
  refine ⟨significant.areDigits.append all_digits, ?_⟩
  rw [List.head?_append_of_ne_nil _ significant.areDigits.nonempty]
  exact significant.start

theorem AreSignificant.take {digits : List Char} (significant : AreSignificant digits)
    {count : Nat} (positive : 0 < count) : AreSignificant (digits.take count) := by
  obtain ⟨c, others, rfl, _⟩ := significant.areDigits.start
  obtain ⟨fewer, rfl⟩ := Nat.exists_eq_add_of_le' positive
  exact ⟨significant.areDigits.of_subset (List.take_subset ..) (by simp), significant.start⟩

theorem zeros_all_digits (count : Nat) :
    ∀ c ∈ List.replicate count '0', Decimal.isDigit c = true := by
  intro c mem
  rw [List.eq_of_mem_replicate mem]
  rfl

theorem areDigits_padded (places n : Nat) : AreDigits (Decimal.padded places n) := by
  have digits := (isWhole_digits n).areDigits
  refine ⟨List.append_ne_nil_of_right_ne_nil _ digits.nonempty, ?_⟩
  intro c mem
  rcases List.mem_append.mp mem with mem | mem
  · exact zeros_all_digits _ c mem
  · exact digits.all_digits c mem

/-- Digits after zeros, so many that one digit stands before those after the point. -/
def filledDigits (after : Nat) (digits : List Char) : List Char :=
  List.replicate (after + 1 - digits.length) '0' ++ digits

theorem length_filledDigits (after : Nat) (digits : List Char) :
    (filledDigits after digits).length = after + 1 - digits.length + digits.length := by
  rw [filledDigits, List.length_append, List.length_replicate]

theorem areDigits_filledDigits {after : Nat} {digits : List Char} (areDigits : AreDigits digits) :
    AreDigits (filledDigits after digits) := by
  refine ⟨List.append_ne_nil_of_right_ne_nil _ areDigits.nonempty, ?_⟩
  intro c mem
  rcases List.mem_append.mp mem with mem | mem
  · exact zeros_all_digits _ c mem
  · exact areDigits.all_digits c mem

/-- What stands before the point is a whole. -/
theorem isWhole_take_filledDigits {after : Nat} {digits : List Char}
    (significant : AreSignificant digits) :
    IsWhole ((filledDigits after digits).take ((filledDigits after digits).length - after)) := by
  rw [length_filledDigits, filledDigits]
  rcases Nat.lt_or_ge after digits.length with long | short
  · -- Without zeros the digits before the point are the first ones.
    have noZeros : after + 1 - digits.length = 0 := by omega
    rw [noZeros]
    exact (significant.take (by omega)).isWhole
  · -- Otherwise a zero stands alone before the point.
    have zeros : after + 1 - digits.length = (after - digits.length) + 1 := by omega
    have one : after + 1 - digits.length + digits.length - after = 1 := by omega
    rw [one, zeros, List.replicate_succ]
    exact .zero

theorem areDigits_drop_filledDigits {after : Nat} {digits : List Char}
    (areDigits : AreDigits digits) (positive : 0 < after) :
    AreDigits ((filledDigits after digits).drop ((filledDigits after digits).length - after)) := by
  refine (areDigits_filledDigits areDigits).of_subset (List.drop_subset ..) ?_
  rw [Ne, List.drop_eq_nil_iff, length_filledDigits]
  omega

/-! ## Numerals -/

/-- The numeral of digits without an exponent. -/
def plainNumeral (negative : Bool) (digits : List Char) (exponent : Int) : Numeral :=
  if 0 ≤ exponent then ⟨negative, digits ++ List.replicate exponent.toNat '0', ['0'], none⟩
  else
    let filled := filledDigits exponent.natAbs digits
    ⟨negative, filled.take (filled.length - exponent.natAbs),
      filled.drop (filled.length - exponent.natAbs), none⟩

/-- The numeral of digits with an exponent. -/
def scientificNumeral (negative : Bool) (digits : List Char) (place : Int) : Numeral :=
  ⟨negative, digits.take 1, digits.drop 1,
    some (decide (place < 0), Decimal.padded 2 place.natAbs)⟩

/-- The numeral of a size with a sign. -/
def Binary64.numeral (negative : Bool) (size : Binary64) : Numeral :=
  let digits := Decimal.digits size.shortest.digits
  let place := (digits.length : Int) - 1 + size.shortest.exponent
  if lowestPlainPlace ≤ place ∧ place ≤ highestPlainPlace then
    plainNumeral negative digits size.shortest.exponent
  else scientificNumeral negative digits place

/-- The numeral that a number is written as. -/
def Number.numeral : Number → Numeral
  | .whole value => ⟨decide (value < 0), Decimal.digits value.natAbs, [], none⟩
  | .float negative size => size.numeral negative

/-- A text with a minus if it is negative. -/
def signed (negative : Bool) (text : List Char) : List Char :=
  if negative then '-' :: text else text

theorem isWritten_signed {negative : Bool} {whole fraction point power : List Char}
    {exponent : Option (Bool × List Char)} (isWhole : IsWhole whole)
    (isFraction : IsFraction fraction point) (isExponent : IsExponent exponent power) :
    Numeral.IsWritten ⟨negative, whole, fraction, exponent⟩
      (signed negative (whole ++ (point ++ power))) := by
  cases negative with
  | false => exact .positive isWhole isFraction isExponent
  | true => exact .negative isWhole isFraction isExponent

theorem isWritten_plain {negative : Bool} {digits : List Char} {exponent : Int}
    (isWhole : IsWhole digits) (significant : exponent ≠ 0 → AreSignificant digits) :
    (plainNumeral negative digits exponent).IsWritten
      (signed negative (writePlain digits exponent)) := by
  unfold plainNumeral writePlain
  split
  · next natural =>
    have whole : IsWhole (digits ++ List.replicate exponent.toNat '0') := by
      by_cases zero : exponent = 0
      · subst zero
        simpa using isWhole
      · exact ((significant zero).append (zeros_all_digits _)).isWhole
    have fraction : AreDigits ['0'] := IsWhole.zero.areDigits
    exact isWritten_signed whole (.digits fraction) .none
  · next below =>
    have areSignificant := significant (by omega)
    have whole := @isWhole_take_filledDigits exponent.natAbs digits areSignificant
    have fraction := areDigits_drop_filledDigits areSignificant.areDigits
      (by omega : 0 < exponent.natAbs)
    have written := @isWritten_signed negative _ _ _ _ _ whole (.digits fraction) .none
    rw [List.append_nil] at written
    exact written

theorem isWritten_scientific {negative : Bool} {digits : List Char} (place : Int)
    (isWhole : IsWhole digits) :
    (scientificNumeral negative digits place).IsWritten
      (signed negative (writeScientific digits place)) := by
  have power : IsExponent (some (decide (place < 0), Decimal.padded 2 place.natAbs))
      ('e' :: (if place < 0 then '-' else '+') :: Decimal.padded 2 place.natAbs) := by
    by_cases below : place < 0
    · rw [if_pos below, decide_eq_true below]
      exact .minus (.inl rfl) (areDigits_padded 2 _)
    · rw [if_neg below, decide_eq_false below]
      exact .plus (.inl rfl) (areDigits_padded 2 _)
  have first : IsWhole (digits.take 1) := by
    cases isWhole with
    | zero => exact .zero
    | digits areDigits start => exact (AreSignificant.take ⟨areDigits, start⟩ Nat.one_pos).isWhole
  have areDigits := isWhole.areDigits
  unfold scientificNumeral writeScientific
  match digits with
  | [] => exact absurd rfl areDigits.nonempty
  | [only] => exact isWritten_signed first .none power
  | only :: second :: others =>
      have fraction : AreDigits (second :: others) :=
        areDigits.of_subset (List.subset_cons_self ..) (by simp)
      exact isWritten_signed first (.digits fraction) power

/-- **Every number is written as a numeral.** -/
theorem Number.isWritten_write (number : Number) : number.numeral.IsWritten number.write := by
  cases number with
  | whole value =>
      have written : (Number.whole value).write =
          signed (decide (value < 0)) (Decimal.digits value.natAbs ++ ([] ++ [])) := by
        simp [Number.write, Decimal.ofInt, signed]
      rw [written]
      exact isWritten_signed (isWhole_digits _) .none .none
  | float negative size =>
      have isWhole := isWhole_digits size.shortest.digits
      have significant : size.shortest.exponent ≠ 0 →
          AreSignificant (Decimal.digits size.shortest.digits) := by
        intro scaled
        rcases size.shortest_zero with zero | positive
        · rw [zero] at scaled
          exact absurd rfl scaled
        · exact areSignificant_digits positive
      have written : (Number.float negative size).write = signed negative size.write := rfl
      rw [written, Number.numeral, Binary64.numeral, Binary64.write]
      split
      · exact isWritten_plain isWhole significant
      · exact isWritten_scientific _ isWhole

end ElectionReadiness.Json
