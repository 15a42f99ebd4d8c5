import ElectionReadiness.Calendar.CivilTime.Writer
import ElectionReadiness.Proofs.Calendar.Layouts
import ElectionReadiness.Proofs.Json.WrittenNumber

/-!
# What is written of a time is read again

The writer and the reader of times meet at the grammars of the layouts.  What is written of a
time spells the fields that a clock shows of it, to the second (`CivilTime.spells_write`), and
what spells fields is read as the time that has them.

A leap second is shown as second 60, so it can only extend the last second of a minute: such
leap seconds and the ordinary times are the clock times (`CivilTime.IsClockTime`).  They are the
times that some text is read as (`CivilTime.isClockTime_iff_exists_read?`), and of the times that
are written they are the ones that are read again (`CivilTime.read?_write_iff`).
-/

set_option autoImplicit false

namespace ElectionReadiness

open Json (AreDigits areDigits_padded)
open Text (NoBlankFirst blanksBefore_of_spelled blanksAround_of_blanksBefore)

/-! ## The numbers of a date -/

namespace Date

/-- The months and their days have numbers of at most two digits. -/
theorem IsValid.lt_hundred {date : Date} (valid : date.IsValid) :
    date.month < 100 ∧ date.day < 100 := by
  have months (leap : Bool) : (monthLengths leap).length = 12 := by cases leap <;> rfl
  have days (leap : Bool) : ∀ length ∈ monthLengths leap, length ≤ 31 := by
    cases leap <;> decide
  obtain ⟨before, length, after, day, split, inside, date_eq, _⟩ := valid.exists_split
  have count := months (isLeapYear date.year)
  have short := days (isLeapYear date.year) length (by simp [split])
  rw [split, List.length_append, List.length_cons] at count
  rw [date_eq]
  constructor
  · change before.length + 1 < 100
    omega
  · change day + 1 < 100
    omega

end Date

namespace CivilTime

/-! ## The parts of a written time -/

theorem isPair_padded {n : Nat} (small : n < 100) : IsPair (Decimal.padded 2 n) n where
  areDigits := areDigits_padded 2 n
  length_le := Nat.le_of_eq (Decimal.length_padded (by decide) small)
  value := Decimal.value_padded 2 n

theorem isYear_writeYear (year : Int) : IsYear (writeYear year) year := by
  unfold writeYear
  split
  · next plain =>
    have short : year.toNat < 10 ^ 4 := by omega
    have spelled := IsYear.plain (areDigits_padded 4 year.toNat)
      (Nat.le_of_eq (Decimal.length_padded (by decide) short))
    rwa [Decimal.value_padded, Int.toNat_of_nonneg plain.1] at spelled
  · have digits := areDigits_padded 4 year.natAbs
    split
    · next negative =>
      have spelled := IsYear.before digits
      rwa [Decimal.value_padded, Int.ofNat_natAbs_of_nonpos (Int.le_of_lt negative),
        Int.neg_neg] at spelled
    · next positive =>
      have spelled := IsYear.after digits
      rwa [Decimal.value_padded, Int.natAbs_of_nonneg (Int.not_lt.mp positive)] at spelled

/-- Some places are a fraction in the nanoseconds that they leave over. -/
theorem isFraction_padded {places n nano : Nat} (positive : 0 < places) (most : places ≤ 9)
    (small : n < 10 ^ places) (nano_eq : n * 10 ^ (9 - places) = nano) :
    IsFraction ('.' :: Decimal.padded places n) nano := by
  have spelled := IsFraction.digits (areDigits_padded places n)
  have whole : (10 : Nat) ^ 9 = 10 ^ (9 - places) * 10 ^ places := by
    rw [← Nat.pow_add, Nat.sub_add_cancel most]
  rwa [Decimal.value_padded, Decimal.length_padded positive small, whole, ← Nat.mul_assoc,
    Nat.mul_div_cancel _ (Nat.pow_pos (by decide)), nano_eq] at spelled

/-- Places are left out only where there are zeros. -/
theorem isFraction_writeFraction {nano : Nat} (small : nano < 1000000000) :
    IsFraction (writeFraction nano) nano := by
  unfold writeFraction
  split
  · next zero =>
    subst zero
    exact .none
  · split
    · next thousandths => exact isFraction_padded (by decide) (by decide) (by omega) (by omega)
    · split
      · next millionths => exact isFraction_padded (by decide) (by decide) (by omega) (by omega)
      · exact isFraction_padded (by decide) (by decide) small (Nat.mul_one nano)

theorem noBlankFirst_reverse_append {digits : List Char} (areDigits : AreDigits digits)
    (rest : List Char) : NoBlankFirst (digits.reverse ++ rest) := by
  refine Scan.noBlankFirst_of_areDigits ⟨?_, ?_⟩ rest
  · simpa using areDigits.nonempty
  · intro c mem
    exact areDigits.all_digits c (List.mem_reverse.mp mem)

/-- Seconds end with a digit. -/
theorem IsSecond.noBlankLast {text : List Char} {second : Nat × Nat}
    (isSecond : IsSecond text second) (before : List Char) :
    NoBlankFirst (before ++ text).reverse := by
  obtain ⟨isPair, isFraction⟩ := isSecond
  cases isFraction with
  | none =>
      rw [List.append_nil, List.reverse_append]
      exact noBlankFirst_reverse_append isPair.areDigits _
  | digits areDigits =>
      rw [List.reverse_append, List.reverse_append, List.reverse_cons, List.append_assoc,
        List.append_assoc]
      exact noBlankFirst_reverse_append areDigits _

/-! ## Clock times -/

/-- A time that clocks can show: a leap second ends a minute. -/
def IsClockTime (time : CivilTime) : Prop :=
  time.nano < 1000000000 ∨ time.second % 60 = 59

/-- What a clock shows of a time; within a leap second one second more. -/
def fields (time : CivilTime) : Fields where
  date := Date.ofDayNumber time.day
  hour := time.second / 3600
  minute := time.second / 60 % 60
  second := if 1000000000 ≤ time.nano then time.second % 60 + 1 else time.second % 60
  nano := time.nano % 1000000000

/-- A clock time has the fields that are shown. -/
theorem denote_fields {time : CivilTime} (clock : time.IsClockTime) :
    time.fields.Denote time := by
  have second_lt := time.second_lt
  have nano_lt := time.nano_lt
  have shown : time.fields.second =
      if 1000000000 ≤ time.nano then time.second % 60 + 1 else time.second % 60 := rfl
  have fraction : time.fields.nano = time.nano % 1000000000 := rfl
  unfold IsClockTime at clock
  exact {
    date_valid := (Date.ofDayNumber_valid time.day_ge time.day_le).1
    hour_lt := by
      change time.second / 3600 < 24
      omega
    minute_lt := Nat.mod_lt _ (by decide)
    second_le := by
      rw [shown]
      split <;> omega
    date := rfl
    hour := rfl
    minute := rfl
    second := by
      rw [shown]
      split <;> omega
    nano := by
      rw [shown, fraction]
      split <;> split <;> omega }

/-- Only clock times are read. -/
theorem isClockTime_of_read? {text : String} {time : CivilTime}
    (read : read? text = some time) : time.IsClockTime := by
  obtain ⟨layout, fields, spelled, denote⟩ := read?_eq_some_iff.mp read
  have fraction := spelled.nano_lt
  -- Only second 60 adds to the fraction, and it is denoted as the last of its minute.
  have second := denote.second
  have nano := denote.nano
  unfold IsClockTime
  split at nano
  · omega
  · omega

/-! ## Written times -/

/-- What comes before the seconds of a written time. -/
def beforeSeconds (time : CivilTime) : List Char :=
  writeDate (Date.ofDayNumber time.day) ++ 'T' :: (Decimal.padded 2 (time.second / 3600) ++
    ':' :: (Decimal.padded 2 (time.second / 60 % 60) ++ [':']))

/-- The seconds of a written time, with their fraction. -/
def writtenSeconds (time : CivilTime) : List Char :=
  Decimal.padded 2 time.fields.second ++ writeFraction time.fields.nano

theorem write_eq (time : CivilTime) :
    time.write 'T' = time.beforeSeconds ++ time.writtenSeconds := by
  simp [write, writeTimeOfDay, beforeSeconds, writtenSeconds, fields]

theorem beforeSeconds_append (time : CivilTime) (seconds : List Char) :
    time.beforeSeconds ++ seconds =
      writeYear (Date.ofDayNumber time.day).year ++ '-' ::
        (Decimal.padded 2 (Date.ofDayNumber time.day).month ++ '-' ::
          (Decimal.padded 2 (Date.ofDayNumber time.day).day ++ 'T' ::
            (Decimal.padded 2 (time.second / 3600) ++ ':' ::
              (Decimal.padded 2 (time.second / 60 % 60) ++ ':' :: seconds)))) := by
  simp [beforeSeconds, writeDate]

theorem isSecond_writtenSeconds (time : CivilTime) :
    IsSecond time.writtenSeconds (time.fields.second, time.fields.nano) := by
  have shown_lt : time.fields.second < 100 := by
    simp only [fields]
    split <;> omega
  exact .fraction (isPair_padded shown_lt)
    (isFraction_writeFraction (Nat.mod_lt time.nano (by decide)))

/-- What is written of a time has no blanks around it. -/
theorem trim_write (time : CivilTime) : Text.trim (time.write 'T') = time.write 'T' := by
  refine Text.trim_eq_self ?_ ?_
  · have isYear := isYear_writeYear (Date.ofDayNumber time.day).year
    rw [write_eq, beforeSeconds_append]
    exact readsNumber_year.start isYear _
  · rw [write_eq]
    exact time.isSecond_writtenSeconds.noBlankLast _

/-- What is written of a time spells what a clock shows of it. -/
theorem spells_write (time : CivilTime) : Spells .seconds (time.write 'T') time.fields := by
  have second_lt := time.second_lt
  have date_lt := (Date.ofDayNumber_valid time.day_ge time.day_le).1.lt_hundred
  have isYear := isYear_writeYear (Date.ofDayNumber time.day).year
  have pair {n : Nat} (small : n < 100) :=
    blanksAround_of_blanksBefore (blanksBefore_of_spelled (isPair_padded small))
  rw [write_eq, beforeSeconds_append]
  exact .seconds (blanksAround_of_blanksBefore (blanksBefore_of_spelled isYear))
    (pair date_lt.1) (pair date_lt.2) (pair (by omega)) (pair (by omega))
    (blanksAround_of_blanksBefore (blanksBefore_of_spelled time.isSecond_writtenSeconds))

/-- **A written time is read again exactly if clocks can show it.** -/
theorem read?_write_iff (time : CivilTime) :
    read? (String.ofList (time.write 'T')) = some time ↔ time.IsClockTime := by
  refine ⟨isClockTime_of_read?, fun clock => ?_⟩
  refine read?_eq_some_iff.mpr ⟨.seconds, time.fields, ?_, denote_fields clock⟩
  rw [String.toList_ofList, trim_write]
  exact spells_write time

/-- The clock times are the times that some text is read as. -/
theorem isClockTime_iff_exists_read? {time : CivilTime} :
    time.IsClockTime ↔ ∃ text, read? text = some time :=
  ⟨fun clock => ⟨_, (read?_write_iff time).mpr clock⟩, fun ⟨_, read⟩ => isClockTime_of_read? read⟩

end CivilTime

end ElectionReadiness
