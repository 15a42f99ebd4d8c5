import ElectionReadiness.Calendar.CivilTime.Reader
import ElectionReadiness.Proofs.Text.PlaceValue
import ElectionReadiness.Proofs.Text.SpelledPart

/-!
# How civil times are spelled

The three layouts of a civil time as grammars: which texts spell which fields
(`CivilTime.Spells`).  A number has one or two digits, a year up to four, or a sign and any
number of them; the fraction of a second may have any number of digits, of which its whole
nanoseconds count.  Blanks may stand before every number, and in the layout with seconds after
it as well.  The grammars know of no scanning.

The scans of the parts read what is spelled (`CivilTime.readsNumber_year`,
`CivilTime.readsNumber_pair`, `CivilTime.readsNumber_second`), and so a layout as a whole reads
exactly what is spelled in it (`CivilTime.readAs?_iff`).
-/

set_option autoImplicit false

namespace ElectionReadiness

open Json (AreDigits NoDigitFirst)
open Text (BlanksBefore BlanksAround)

/-! ## The parts of a written time -/

namespace CivilTime

/-- A number of one or two digits. -/
structure IsPair (text : List Char) (n : Nat) : Prop where
  areDigits : AreDigits text
  length_le : text.length ≤ 2
  value : Decimal.value text = n

/-- A year of up to four digits, or of any number of them after a sign. -/
inductive IsYear : List Char → Int → Prop
  | plain {digits : List Char} (areDigits : AreDigits digits) (length_le : digits.length ≤ 4) :
      IsYear digits (Decimal.value digits)
  | after {digits : List Char} (areDigits : AreDigits digits) :
      IsYear ('+' :: digits) (Decimal.value digits)
  | before {digits : List Char} (areDigits : AreDigits digits) :
      IsYear ('-' :: digits) (-(Decimal.value digits))

/-- A fraction of a second in whole nanoseconds, or none. -/
inductive IsFraction : List Char → Nat → Prop
  | none : IsFraction [] 0
  | digits {digits : List Char} (areDigits : AreDigits digits) :
      IsFraction ('.' :: digits) (Decimal.value digits * 10 ^ 9 / 10 ^ digits.length)

/-- Seconds with their fraction. -/
inductive IsSecond : List Char → Nat × Nat → Prop
  | fraction {pair fraction : List Char} {second nano : Nat} (isPair : IsPair pair second)
      (isFraction : IsFraction fraction nano) : IsSecond (pair ++ fraction) (second, nano)

/-! ## The layouts -/

/-- What is written of a time. -/
structure Fields where
  date : Date
  hour : Nat
  minute : Nat
  second : Nat
  nano : Nat

/-- To which field a time is written. -/
inductive Layout where
  | seconds
  | minutes
  | days
  deriving DecidableEq

/-- All layouts, in the order in which they are tried. -/
def Layout.all : List Layout := [seconds, minutes, days]

theorem Layout.mem_all (layout : Layout) : layout ∈ all := by cases layout <;> decide

/-- A text spells fields in a layout. -/
inductive Spells : Layout → List Char → Fields → Prop
  | seconds {year month day hour minute second : List Char} {y : Int} {mo d h mi s nano : Nat}
      (isYear : BlanksAround IsYear year y) (isMonth : BlanksAround IsPair month mo)
      (isDay : BlanksAround IsPair day d) (isHour : BlanksAround IsPair hour h)
      (isMinute : BlanksAround IsPair minute mi) (isSecond : BlanksAround IsSecond second (s, nano)) :
      Spells .seconds (year ++ '-' :: (month ++ '-' :: (day ++ 'T' ::
        (hour ++ ':' :: (minute ++ ':' :: second))))) ⟨⟨y, mo, d⟩, h, mi, s, nano⟩
  | minutes {year month day hour minute : List Char} {y : Int} {mo d h mi : Nat}
      (isYear : BlanksBefore IsYear year y) (isMonth : BlanksBefore IsPair month mo)
      (isDay : BlanksBefore IsPair day d) (isHour : BlanksBefore IsPair hour h)
      (isMinute : BlanksBefore IsPair minute mi) :
      Spells .minutes (year ++ '-' :: (month ++ '-' :: (day ++ 'T' :: (hour ++ ':' :: minute))))
        ⟨⟨y, mo, d⟩, h, mi, 0, 0⟩
  | days {year month day : List Char} {y : Int} {mo d : Nat}
      (isYear : BlanksBefore IsYear year y) (isMonth : BlanksBefore IsPair month mo)
      (isDay : BlanksBefore IsPair day d) :
      Spells .days (year ++ '-' :: (month ++ '-' :: day)) ⟨⟨y, mo, d⟩, 0, 0, 0, 0⟩

/-! ## Scanning the parts -/

open Scan

theorem readsNumber_pair : (number 2).ReadsNumber IsPair where
  sound := by
    intro text rest n read
    obtain ⟨digits, text_eq, areDigits, short, value⟩ := number_eq_some read
    exact ⟨digits, text_eq, areDigits, short, value⟩
  complete := by
    rintro piece rest _ ⟨areDigits, short, rfl⟩ ends
    exact number_append areDigits short ends.noDigitFirst
  start := fun isPair rest => noBlankFirst_of_areDigits isPair.areDigits rest

theorem scanYear_of_digit {c : Char} (digit : Decimal.isDigit c = true) (rest : List Char) :
    scanYear (c :: rest) = (number 4 (c :: rest)).map fun (year, left) => ((year : Int), left) := by
  unfold scanYear
  split
  · next same =>
    cases same
    exact absurd digit (by decide)
  · next same =>
    cases same
    exact absurd digit (by decide)
  · rfl

theorem readsNumber_year : ReadsNumber scanYear IsYear where
  sound := by
    intro text rest year read
    unfold scanYear at read
    split at read
    · next written =>
      obtain ⟨⟨n, left⟩, read, same⟩ := Option.map_eq_some_iff.mp read
      cases same
      obtain ⟨digits, rfl, areDigits, rfl⟩ := longNumber_eq_some read
      exact ⟨'-' :: digits, rfl, .before areDigits⟩
    · next written =>
      obtain ⟨⟨n, left⟩, read, same⟩ := Option.map_eq_some_iff.mp read
      cases same
      obtain ⟨digits, rfl, areDigits, rfl⟩ := longNumber_eq_some read
      exact ⟨'+' :: digits, rfl, .after areDigits⟩
    · obtain ⟨⟨n, left⟩, read, same⟩ := Option.map_eq_some_iff.mp read
      cases same
      obtain ⟨digits, rfl, areDigits, short, rfl⟩ := number_eq_some read
      exact ⟨digits, rfl, .plain areDigits short⟩
  complete := by
    rintro piece rest year (⟨areDigits, short⟩ | areDigits | areDigits) ends
    · obtain ⟨c, others, rfl, digit⟩ := exists_cons_of_areDigits areDigits
      rw [List.cons_append, scanYear_of_digit digit, ← List.cons_append,
        number_append areDigits short ends.noDigitFirst]
      rfl
    · rw [List.cons_append, scanYear, longNumber_append areDigits ends.noDigitFirst]
      rfl
    · rw [List.cons_append, scanYear, longNumber_append areDigits ends.noDigitFirst]
      rfl
  start := by
    rintro piece year (⟨areDigits, _⟩ | areDigits | areDigits) rest
    · exact noBlankFirst_of_areDigits areDigits rest
    · rintro _ ⟨⟩
      decide
    · rintro _ ⟨⟩
      decide

/-- The first nine digits of a fraction, filled up to nine places, are its whole nanoseconds. -/
theorem fractionNanos_eq {digits : List Char}
    (all_digits : ∀ c ∈ digits, Decimal.isDigit c = true) :
    fractionNanos digits = Decimal.value digits * 10 ^ 9 / 10 ^ digits.length := by
  simp only [fractionNanos, Nat.pow_eq]
  rcases Nat.le_total digits.length 9 with short | long
  · have places : (10 : Nat) ^ 9 = 10 ^ (9 - digits.length) * 10 ^ digits.length := by
      rw [← Nat.pow_add, Nat.sub_add_cancel short]
    rw [List.take_of_length_le short, places, ← Nat.mul_assoc,
      Nat.mul_div_cancel _ (Nat.pow_pos (by decide))]
  · -- The digits after the ninth are a rest of the division by their place.
    have dropped := Decimal.value_lt fun c mem => all_digits c (List.drop_subset 9 digits mem)
    have taken : (digits.take 9).length = 9 := List.length_take_of_le long
    have split := Decimal.value_append (digits.take 9) (digits.drop 9)
    have places : (10 : Nat) ^ digits.length = 10 ^ (digits.drop 9).length * 10 ^ 9 := by
      rw [← Nat.pow_add, List.length_drop, Nat.sub_add_cancel long]
    rw [List.take_append_drop] at split
    rw [taken, Nat.sub_self, Nat.pow_zero, Nat.mul_one, places,
      Nat.mul_div_mul_right _ _ (by decide), split, Nat.mul_comm,
      Nat.mul_add_div (Nat.pow_pos (by decide)), Nat.div_eq_of_lt dropped, Nat.add_zero]

theorem scanFraction_eq_some {nano : Nat} {text rest : List Char}
    (read : scanFraction text = some (nano, rest)) :
    ∃ fraction, text = fraction ++ rest ∧ IsFraction fraction nano := by
  unfold scanFraction at read
  split at read
  · next text' =>
    split at read
    · cases read
    · next written nonempty =>
      cases read
      have areDigits : AreDigits (text'.takeWhile Decimal.isDigit) :=
        ⟨nonempty, fun c mem => List.mem_takeWhile_imp mem⟩
      refine ⟨'.' :: text'.takeWhile Decimal.isDigit, ?_, ?_⟩
      · rw [List.cons_append, List.takeWhile_append_dropWhile]
      · rw [fractionNanos_eq areDigits.all_digits]
        exact .digits areDigits
  · cases read
    exact ⟨[], rfl, .none⟩

theorem scanFraction_append {nano : Nat} {fraction rest : List Char}
    (isFraction : IsFraction fraction nano) (ends : EndsNumber rest) :
    scanFraction (fraction ++ rest) = some (nano, rest) := by
  cases isFraction with
  | none =>
      rw [List.nil_append]
      unfold scanFraction
      split
      · exact absurd rfl (ends '.' rfl).2
      · rfl
  | @digits digits areDigits =>
      obtain ⟨taken, dropped⟩ := span_digits_append areDigits ends.noDigitFirst
      rw [List.cons_append, scanFraction, taken, dropped, ← fractionNanos_eq areDigits.all_digits]
      split
      · exact absurd rfl areDigits.nonempty
      · rfl

/-- A fraction does not go on with the digits of the second. -/
theorem IsFraction.noDigitFirst {nano : Nat} {fraction rest : List Char}
    (isFraction : IsFraction fraction nano) (stops : NoDigitFirst rest) :
    NoDigitFirst (fraction ++ rest) := by
  cases isFraction with
  | none => exact stops
  | digits _ =>
      rintro _ ⟨⟩
      decide

/-- Seconds with their fraction. -/
def scanSecond : Scan (Nat × Nat) := do
  let second ← number 2
  let nano ← scanFraction
  pure (second, nano)

theorem readsNumber_second : scanSecond.ReadsNumber IsSecond where
  sound := by
    intro text rest found scanned
    obtain ⟨second, left, read, later⟩ := bind_eq_some_iff.mp scanned
    obtain ⟨nano, left', readFraction, done⟩ := bind_eq_some_iff.mp later
    cases done
    obtain ⟨pair, rfl, isPair⟩ := readsNumber_pair.sound read
    obtain ⟨fraction, rfl, isFraction⟩ := scanFraction_eq_some readFraction
    exact ⟨pair ++ fraction, (List.append_assoc ..).symm, .fraction isPair isFraction⟩
  complete := by
    rintro _ rest _ ⟨⟨areDigits, short, rfl⟩, isFraction⟩ ends
    rw [List.append_assoc]
    refine bind_eq_some_iff.mpr ⟨_, _, number_append areDigits short ?_, ?_⟩
    · exact isFraction.noDigitFirst ends.noDigitFirst
    · exact bind_eq_some_iff.mpr ⟨_, _, scanFraction_append isFraction ends, rfl⟩
  start := by
    rintro _ _ ⟨isPair, _⟩ rest
    rw [List.append_assoc]
    exact noBlankFirst_of_areDigits isPair.areDigits _

/-! ## The layouts -/

/-- The scan of a layout. -/
def Layout.scan : Layout → Scan (Option CivilTime)
  | seconds => secondLayout
  | minutes => minuteLayout
  | days => dayLayout

/-- The time of the fields, if there is one. -/
def Fields.time? (fields : Fields) : Option CivilTime :=
  ofFields? fields.date fields.hour fields.minute fields.second fields.nano

theorem secondLayout_eq :
    secondLayout = (do
      let year ← amidBlanks scanYear
      mark '-'
      let month ← amidBlanks (number 2)
      mark '-'
      let day ← amidBlanks (number 2)
      mark 'T'
      let hour ← amidBlanks (number 2)
      mark ':'
      let minute ← amidBlanks (number 2)
      mark ':'
      let second ← amidBlanks scanSecond
      pure (ofFields? ⟨year, month, day⟩ hour minute second.1 second.2)) := by
  simp only [secondLayout, amidBlanks, scanSecond, scanPair, bind_assoc, pure_bind]

theorem minuteLayout_eq :
    minuteLayout = (do
      let year ← afterBlanks scanYear
      mark '-'
      let month ← afterBlanks (number 2)
      mark '-'
      let day ← afterBlanks (number 2)
      mark 'T'
      let hour ← afterBlanks (number 2)
      mark ':'
      let minute ← afterBlanks (number 2)
      pure (ofFields? ⟨year, month, day⟩ hour minute 0 0)) := by
  simp only [minuteLayout, afterBlanks, scanPair, bind_assoc]

theorem dayLayout_eq :
    dayLayout = (do
      let year ← afterBlanks scanYear
      mark '-'
      let month ← afterBlanks (number 2)
      mark '-'
      let day ← afterBlanks (number 2)
      pure (ofFields? ⟨year, month, day⟩ 0 0 0 0)) := by
  simp only [dayLayout, afterBlanks, scanPair, bind_assoc]

theorem readAs?_eq_some_iff {layout : Scan (Option CivilTime)} {text : List Char}
    {time : CivilTime} :
    readAs? layout text = some time ↔ layout text = some (some time, []) := by
  simp [readAs?, Option.bind_eq_some_iff, all?_eq_some_iff]

/-- A scan takes all of a text exactly if the text is spelled in its layout, whether the fields
have a time or not. -/
theorem Layout.scan_eq_some_iff {layout : Layout} {text : List Char} {made : Option CivilTime} :
    layout.scan text = some (made, []) ↔
      ∃ fields, Spells layout text fields ∧ fields.time? = made := by
  have year := reads_afterBlanks readsNumber_year
  have pair := reads_afterBlanks readsNumber_pair
  have year' := reads_amidBlanks readsNumber_year
  have pair' := reads_amidBlanks readsNumber_pair
  have second := reads_amidBlanks readsNumber_second
  have hyphen : IsMark '-' := by decide
  have letter : IsMark 'T' := by decide
  have colon : IsMark ':' := by decide
  cases layout with
  | seconds =>
      rw [Layout.scan, secondLayout_eq]
      simp only [then_mark_iff year' hyphen, then_mark_iff pair' hyphen, then_mark_iff pair' letter,
        then_mark_iff pair' colon, last_iff second]
      constructor
      · rintro ⟨_, _, _, rfl, isYear, _, _, _, rfl, isMonth, _, _, _, rfl, isDay, _, _, _, rfl,
          isHour, _, _, _, rfl, isMinute, _, isSecond, made⟩
        exact ⟨_, .seconds isYear isMonth isDay isHour isMinute isSecond, made⟩
      · rintro ⟨_, spelled, made⟩
        obtain ⟨isYear, isMonth, isDay, isHour, isMinute, isSecond⟩ := spelled
        exact ⟨_, _, _, rfl, isYear, _, _, _, rfl, isMonth, _, _, _, rfl, isDay, _, _, _, rfl,
          isHour, _, _, _, rfl, isMinute, _, isSecond, made⟩
  | minutes =>
      rw [Layout.scan, minuteLayout_eq]
      simp only [then_mark_iff year hyphen, then_mark_iff pair hyphen, then_mark_iff pair letter,
        then_mark_iff pair colon, last_iff pair]
      constructor
      · rintro ⟨_, _, _, rfl, isYear, _, _, _, rfl, isMonth, _, _, _, rfl, isDay, _, _, _, rfl,
          isHour, _, isMinute, made⟩
        exact ⟨_, .minutes isYear isMonth isDay isHour isMinute, made⟩
      · rintro ⟨_, spelled, made⟩
        obtain _ | ⟨isYear, isMonth, isDay, isHour, isMinute⟩ := spelled
        exact ⟨_, _, _, rfl, isYear, _, _, _, rfl, isMonth, _, _, _, rfl, isDay, _, _, _, rfl,
          isHour, _, isMinute, made⟩
  | days =>
      rw [Layout.scan, dayLayout_eq]
      simp only [then_mark_iff year hyphen, then_mark_iff pair hyphen, last_iff pair]
      constructor
      · rintro ⟨_, _, _, rfl, isYear, _, _, _, rfl, isMonth, _, isDay, made⟩
        exact ⟨_, .days isYear isMonth isDay, made⟩
      · rintro ⟨_, spelled, made⟩
        obtain _ | _ | ⟨isYear, isMonth, isDay⟩ := spelled
        exact ⟨_, _, _, rfl, isYear, _, _, _, rfl, isMonth, _, isDay, made⟩

/-- **A layout reads exactly what is spelled in it.** -/
theorem readAs?_iff {layout : Layout} {text : List Char} {time : CivilTime} :
    readAs? layout.scan text = some time ↔
      ∃ fields, Spells layout text fields ∧ fields.time? = some time := by
  rw [readAs?_eq_some_iff, Layout.scan_eq_some_iff]

/-- A text spells one time only. -/
theorem Spells.time?_unique {layout : Layout} {text : List Char} {fields fields' : Fields}
    (one : Spells layout text fields) (other : Spells layout text fields') :
    fields.time? = fields'.time? := by
  have scanned := Layout.scan_eq_some_iff.mpr ⟨fields, one, rfl⟩
  rw [Layout.scan_eq_some_iff.mpr ⟨fields', other, rfl⟩, Option.some.injEq, Prod.mk.injEq]
    at scanned
  exact scanned.1.symm

end CivilTime

end ElectionReadiness
