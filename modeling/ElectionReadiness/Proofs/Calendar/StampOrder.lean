import ElectionReadiness.Proofs.Calendar.WrittenTime
import ElectionReadiness.Proofs.Text.ByteOrder

/-!
# Stamps are in the order of their times

A stamp is a time to the second with four digits for the year and two for every other field.  Of
two stamps that are read, the one whose bytes come first is the earlier time, over the ends of
months, years and centuries and around leap seconds (`CivilTime.bytes_le_iff_of_isStamp`).

Neither order is looked at whole.  A stamp is taken apart into its six numerals, and all that is
asked of a text that comes first is that its numbers do, the year counting most
(`CivilTime.Stamp.numbers_lt`).  The numbers of possible fields decide in turn which time is
earlier (`CivilTime.Fields.Denote.lt`): second 60 denotes a time after second 59 and before the
next minute.
-/

set_option autoImplicit false

namespace ElectionReadiness.CivilTime

open Json (AreDigits)
open Text (blanksBefore_of_spelled blanksAround_of_blanksBefore)

/-! ## The order of fields -/

/-- The fields from the year to the fraction. -/
def Fields.numbers (fields : Fields) : List Int :=
  fields.date.numbers ++
    [(fields.hour : Int), (fields.minute : Int), (fields.second : Int), (fields.nano : Int)]

/-- **Times come in the order of their fields.** -/
theorem Fields.Denote.lt {fields fields' : Fields} {time later : CivilTime}
    (denote : fields.Denote time) (denote' : fields'.Denote later)
    (fraction : fields.nano < 1000000000) (order : fields.numbers < fields'.numbers) :
    time < later := by
  obtain ⟨⟨valid, hour_lt, minute_lt, second_le⟩, day_eq, second_eq, nano_eq⟩ :=
    ofFields?_eq_some_iff.mp (Fields.time?_eq_some_iff.mpr denote)
  obtain ⟨⟨valid', hour_lt', minute_lt', second_le'⟩, day_eq', second_eq', nano_eq'⟩ :=
    ofFields?_eq_some_iff.mp (Fields.time?_eq_some_iff.mpr denote')
  have nano_lt := time.nano_lt
  have second_lt := time.second_lt
  rw [lt_iff_key_lt, key, key, wholeSeconds, wholeSeconds, day_eq, day_eq']
  rcases valid.lt_or_eq_of_append_lt valid' order with earlier | ⟨same, within⟩
  · omega
  · rw [same]
    simp only [List.cons_lt_cons_iff, List.not_lt_nil, and_false, or_false] at within
    -- Second 60 is as far from second 59 as a whole fraction is.
    split at nano_eq <;> split at nano_eq' <;> omega

/-- The text that spells fields is read as their time, and is not read if they have none. -/
theorem Spells.read?_eq {layout : Layout} {text : String} {fields : Fields}
    (spelled : Spells layout (Text.trim text.toList) fields) : read? text = fields.time? := by
  ext time
  rw [read?_eq_some_iff]
  constructor
  · rintro ⟨layout', fields', spelled', denote⟩
    have same : layout' = layout :=
      Layout.colons_injective (spelled'.count_colon.symm.trans spelled.count_colon)
    subst same
    rw [spelled.time?_unique spelled']
    exact Fields.time?_eq_some_iff.mpr denote
  · intro made
    exact ⟨layout, fields, spelled, Fields.time?_eq_some_iff.mp made⟩

/-! ## Numerals -/

/-- A numeral of so many digits. -/
structure Numeral (places : Nat) where
  digits : List Char
  length_eq : digits.length = places
  all_digits : ∀ c ∈ digits, Decimal.isDigit c = true

namespace Numeral

variable {places : Nat}

/-- The number of a numeral. -/
def value (numeral : Numeral places) : Nat := Decimal.value numeral.digits

theorem areDigits (numeral : Numeral (places + 1)) : AreDigits numeral.digits where
  nonempty := List.ne_nil_of_length_eq_add_one numeral.length_eq
  all_digits := numeral.all_digits

theorem isPair (numeral : Numeral 2) : IsPair numeral.digits numeral.value where
  areDigits := numeral.areDigits
  length_le := Nat.le_of_eq numeral.length_eq
  value := rfl

theorem isYear (numeral : Numeral 4) : IsYear numeral.digits numeral.value :=
  .plain numeral.areDigits (Nat.le_of_eq numeral.length_eq)

/-- Texts that begin with numerals are ordered by their numbers, and by what follows if the numbers
are the same. -/
theorem numbers_lt {one other : Numeral places} {rest rest' : List Char}
    {numbers numbers' : List Int} (less : one.digits ++ rest < other.digits ++ rest')
    (later : rest < rest' → numbers < numbers') :
    (one.value : Int) :: numbers < (other.value : Int) :: numbers' := by
  rw [List.cons_lt_cons_iff]
  have long : one.digits.length = other.digits.length := one.length_eq.trans other.length_eq.symm
  rcases Decimal.lt_or_eq_of_append_lt long one.all_digits less with before | ⟨same, after⟩
  · exact .inl (Int.ofNat_lt.mpr before)
  · exact .inr ⟨Int.ofNat_inj.mpr same, later after⟩

/-- The mark after the numerals is the same and has no say. -/
theorem numbers_lt_mark {one other : Numeral places} {mark : Char} {rest rest' : List Char}
    {numbers numbers' : List Int}
    (less : one.digits ++ mark :: rest < other.digits ++ mark :: rest')
    (later : rest < rest' → numbers < numbers') :
    (one.value : Int) :: numbers < (other.value : Int) :: numbers' :=
  numbers_lt less fun marked => later (List.cons_lt_cons_self.mp marked)

end Numeral

/-! ## Stamps -/

/-- A text with every digit as a zero. -/
def shape (text : List Char) : List Char :=
  text.map fun c => if Decimal.isDigit c then '0' else c

/-- A text has the shape of a time to the second, four digits and five times two. -/
def IsStamp (text : String) : Prop := shape text.toList = "0000-00-00T00:00:00".toList

instance (text : String) : Decidable (IsStamp text) := inferInstanceAs (Decidable (_ = _))

/-- The numerals of a stamp. -/
structure Stamp where
  year : Numeral 4
  month : Numeral 2
  day : Numeral 2
  hour : Numeral 2
  minute : Numeral 2
  second : Numeral 2

namespace Stamp

/-- The numerals with the marks between them. -/
def text (stamp : Stamp) : List Char :=
  stamp.year.digits ++ '-' :: (stamp.month.digits ++ '-' :: (stamp.day.digits ++ 'T' ::
    (stamp.hour.digits ++ ':' :: (stamp.minute.digits ++ ':' :: stamp.second.digits))))

/-- The fields of a stamp, which has no fraction. -/
def fields (stamp : Stamp) : Fields where
  date := ⟨stamp.year.value, stamp.month.value, stamp.day.value⟩
  hour := stamp.hour.value
  minute := stamp.minute.value
  second := stamp.second.value
  nano := 0

/-- A stamp spells its fields in the layout with seconds. -/
theorem spells (stamp : Stamp) : Spells .seconds stamp.text stamp.fields := by
  have isSecond : IsSecond stamp.second.digits (stamp.second.value, 0) := by
    simpa using IsSecond.fraction stamp.second.isPair .none
  have pair (numeral : Numeral 2) :=
    blanksAround_of_blanksBefore (blanksBefore_of_spelled numeral.isPair)
  exact .seconds (blanksAround_of_blanksBefore (blanksBefore_of_spelled stamp.year.isYear))
    (pair stamp.month) (pair stamp.day) (pair stamp.hour) (pair stamp.minute)
    (blanksAround_of_blanksBefore (blanksBefore_of_spelled isSecond))

/-- A stamp has no blanks around it. -/
theorem trim_text (stamp : Stamp) : Text.trim stamp.text = stamp.text := by
  refine Text.trim_eq_self (Scan.noBlankFirst_of_areDigits stamp.year.areDigits _) ?_
  have last : stamp.text = (stamp.year.digits ++ '-' :: stamp.month.digits ++ '-' ::
      stamp.day.digits ++ 'T' :: stamp.hour.digits ++ ':' :: stamp.minute.digits ++ [':'])
        ++ stamp.second.digits := by
    simp [text]
  rw [last, List.reverse_append]
  exact noBlankFirst_reverse_append stamp.second.areDigits _

/-- **A stamp that comes first as a text has the first numbers.** -/
theorem numbers_lt {one other : Stamp} (less : one.text < other.text) :
    one.fields.numbers < other.fields.numbers := by
  refine Numeral.numbers_lt_mark less fun fromMonth => ?_
  refine Numeral.numbers_lt_mark fromMonth fun fromDay => ?_
  refine Numeral.numbers_lt_mark fromDay fun fromHour => ?_
  refine Numeral.numbers_lt_mark fromHour fun fromMinute => ?_
  refine Numeral.numbers_lt_mark fromMinute fun fromSecond => ?_
  rw [← List.append_nil one.second.digits, ← List.append_nil other.second.digits] at fromSecond
  exact Numeral.numbers_lt fromSecond fun none => absurd none (List.lt_irrefl _)

end Stamp

/-! ## Texts that are stamps -/

theorem isDigit_of_shape {c : Char} (zero : (if Decimal.isDigit c then '0' else c) = '0') :
    Decimal.isDigit c = true := by
  by_contra other
  rw [if_neg other] at zero
  rw [zero] at other
  exact other (by decide)

theorem eq_of_shape {c mark : Char} (noDigit : Decimal.isDigit mark = false)
    (same : (if Decimal.isDigit c then '0' else c) = mark) : c = mark := by
  by_cases digit : Decimal.isDigit c = true
  · rw [if_pos digit] at same
    rw [← same] at noDigit
    cases noDigit
  · rwa [if_neg digit] at same

/-- Zeros are the shape of a numeral. -/
theorem exists_numeral {text : List Char} {places : Nat}
    (shaped : shape text = List.replicate places '0') :
    ∃ numeral : Numeral places, text = numeral.digits := by
  obtain ⟨long, zeros⟩ := List.eq_replicate_iff.mp shaped
  refine ⟨⟨text, by rwa [shape, List.length_map] at long, ?_⟩, rfl⟩
  intro c mem
  exact isDigit_of_shape (zeros _ (List.mem_map_of_mem mem))

/-- Zeros and a mark are the shape of a numeral and the mark. -/
theorem exists_numeral_mark {text rest : List Char} {places : Nat} {mark : Char}
    (noDigit : Decimal.isDigit mark = false)
    (shaped : shape text = List.replicate places '0' ++ mark :: rest) :
    ∃ (numeral : Numeral places) (left : List Char),
      text = numeral.digits ++ mark :: left ∧ shape left = rest := by
  obtain ⟨digits, after, rfl, zeros, later⟩ := List.map_eq_append_iff.mp shaped
  obtain ⟨c, left, rfl, marked, more⟩ := List.map_eq_cons_iff.mp later
  obtain ⟨numeral, rfl⟩ := exists_numeral zeros
  obtain rfl := eq_of_shape noDigit marked
  exact ⟨numeral, left, rfl, more⟩

/-- A text of this shape is a stamp. -/
theorem IsStamp.exists_stamp {text : String} (shaped : IsStamp text) :
    ∃ stamp : Stamp, text.toList = stamp.text := by
  have zeros : "0000-00-00T00:00:00".toList =
      List.replicate 4 '0' ++ '-' :: (List.replicate 2 '0' ++ '-' :: (List.replicate 2 '0' ++
        'T' :: (List.replicate 2 '0' ++ ':' :: (List.replicate 2 '0' ++
          ':' :: List.replicate 2 '0')))) := by
    decide
  rw [IsStamp, zeros] at shaped
  obtain ⟨year, _, written, fromMonth⟩ := exists_numeral_mark (by decide) shaped
  obtain ⟨month, _, rfl, fromDay⟩ := exists_numeral_mark (by decide) fromMonth
  obtain ⟨day, _, rfl, fromHour⟩ := exists_numeral_mark (by decide) fromDay
  obtain ⟨hour, _, rfl, fromMinute⟩ := exists_numeral_mark (by decide) fromHour
  obtain ⟨minute, _, rfl, fromSecond⟩ := exists_numeral_mark (by decide) fromMinute
  obtain ⟨second, rfl⟩ := exists_numeral fromSecond
  exact ⟨⟨year, month, day, hour, minute, second⟩, written⟩

/-- A stamp that comes first is the earlier time. -/
theorem lt_of_isStamp {one other : String} {time later : CivilTime} (shaped : IsStamp one)
    (shaped' : IsStamp other) (read : read? one = some time) (read' : read? other = some later)
    (less : one < other) : time < later := by
  have denotes {text : String} {stamp : Stamp} {time : CivilTime}
      (written : text.toList = stamp.text) (read : read? text = some time) :
      stamp.fields.Denote time := by
    have spelled : Spells .seconds (Text.trim text.toList) stamp.fields := by
      rw [written, stamp.trim_text]
      exact stamp.spells
    exact Fields.time?_eq_some_iff.mp (spelled.read?_eq.symm.trans read)
  obtain ⟨stamp, written⟩ := shaped.exists_stamp
  obtain ⟨stamp', written'⟩ := shaped'.exists_stamp
  rw [String.lt_iff_toList_lt, written, written'] at less
  exact (denotes written read).lt (denotes written' read') (by decide : 0 < 1000000000)
    (Stamp.numbers_lt less)

/-- **The bytes of stamps are in the order of the times.** -/
theorem bytes_le_iff_of_isStamp {one other : String} {time later : CivilTime}
    (shaped : IsStamp one) (shaped' : IsStamp other) (read : read? one = some time)
    (read' : read? other = some later) :
    Text.bytes one ≤ Text.bytes other ↔ time ≤ later := by
  rw [Text.bytes_le_iff]
  rcases lt_trichotomy one other with before | rfl | behind
  · exact iff_of_true before.le (lt_of_isStamp shaped shaped' read read' before).le
  · rw [read, Option.some.injEq] at read'
    exact iff_of_true le_rfl read'.le
  · have earlier := lt_of_isStamp shaped' shaped read' read behind
    exact iff_of_false (not_le.mpr behind) (not_le.mpr earlier)

end ElectionReadiness.CivilTime
