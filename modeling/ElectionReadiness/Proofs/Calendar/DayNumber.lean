import ElectionReadiness.Calendar.Date
import Mathlib.Algebra.Order.Ring.Int

/-!
# Day numbers count the days of the calendar

A valid date and its day number determine each other: the date of the number of a valid date
is that date again (`Date.ofDayNumber_dayNumber`), and every day number of the years of times
belongs to a valid date, whose number it is (`Date.ofDayNumber_valid`).

Years follow each other without a gap, and their lengths are those of their months
(`Date.yearStart_succ`), so a day number lies in exactly one year.  Within a year the months
are found by taking off their lengths one after the other, and a split of the list of lengths
stands for a month (`Date.placeInMonths_of_split`).  So the days are numbered in the order of their
dates, year by year and month by month (`Date.IsValid.lt_or_eq_of_append_lt`).
-/

set_option autoImplicit false

namespace ElectionReadiness.Date

/-! ## Years -/

theorem isLeapYear_iff {year : Int} :
    isLeapYear year = true ↔ year % 4 = 0 ∧ (year % 100 ≠ 0 ∨ year % 400 = 0) := by
  simp [isLeapYear]

theorem sum_monthLengths (leap : Bool) :
    (monthLengths leap).sum = if leap = true then 366 else 365 := by
  cases leap <;> rfl

/-- A year ends where the next begins. -/
theorem yearStart_succ (year : Int) :
    yearStart (year + 1) = yearStart year + (monthLengths (isLeapYear year)).sum := by
  simp only [sum_monthLengths, isLeapYear_iff, yearStart]
  split <;> omega

/-- The days of a year are before the next. -/
theorem yearStart_add_le {year later : Int} (order : year < later) :
    yearStart year + (monthLengths (isLeapYear year)).sum ≤ yearStart later := by
  rw [← yearStart_succ]
  simp only [yearStart]
  omega

/-- A day lies in one year only. -/
theorem year_unique {year other : Int} {inYear inOther : Nat}
    (inside : inYear < (monthLengths (isLeapYear year)).sum)
    (insideOther : inOther < (monthLengths (isLeapYear other)).sum)
    (same : yearStart year + inYear = yearStart other + inOther) : year = other := by
  rcases lt_trichotomy year other with before | equal | behind
  · have := yearStart_add_le before
    omega
  · exact equal
  · have := yearStart_add_le behind
    omega

/-! ## Months -/

/-- Taking off the lengths of months leads to the month that a split stands for. -/
theorem placeInMonths_of_split {before after : List Nat} {length day : Nat} (month : Nat)
    (inside : day < length) :
    placeInMonths month (before ++ length :: after) (before.sum + day) =
      (month + before.length, day + 1) := by
  induction before generalizing month with
  | nil => simp [placeInMonths, inside]
  | cons first before ih =>
      have passed : ¬first + before.sum + day < first := by omega
      have left : first + before.sum + day - first = before.sum + day := by omega
      rw [List.cons_append, List.sum_cons, placeInMonths, if_neg passed, left, ih,
        List.length_cons, Nat.add_assoc, Nat.add_comm 1]

/-- Every day of the months lies in one of them. -/
theorem exists_split_of_lt_sum {lengths : List Nat} {rest : Nat} (inside : rest < lengths.sum) :
    ∃ before length after day, lengths = before ++ length :: after ∧
      rest = before.sum + day ∧ day < length := by
  induction lengths generalizing rest with
  | nil => exact absurd inside (Nat.not_lt_zero _)
  | cons first others ih =>
      by_cases here : rest < first
      · exact ⟨[], first, others, rest, rfl, by simp, here⟩
      · rw [List.sum_cons] at inside
        obtain ⟨before, length, after, day, split, rest_eq, within⟩ :=
          ih (by omega : rest - first < others.sum)
        refine ⟨first :: before, length, after, day, by rw [split]; rfl, ?_, within⟩
        rw [List.sum_cons]
        omega

section

variable {year : Int} {before after : List Nat} {length : Nat}
  (split : monthLengths (isLeapYear year) = before ++ length :: after)
include split

theorem daysInMonth_of_split : daysInMonth year (before.length + 1) = length := by
  simp [daysInMonth, split]

theorem daysBeforeMonth_of_split :
    daysBeforeMonth (isLeapYear year) (before.length + 1) = before.sum := by
  simp [daysBeforeMonth, split, List.sum]

end

/-- A month that has days splits the lengths of months. -/
theorem exists_split_of_daysInMonth {year : Int} {month : Nat}
    (nonempty : 0 < daysInMonth year month) :
    ∃ before length after, monthLengths (isLeapYear year) = before ++ length :: after ∧
      month = before.length + 1 := by
  obtain _ | index := month
  · exact absurd nonempty (Nat.lt_irrefl _)
  · have inside : index < (monthLengths (isLeapYear year)).length := by
      by_contra outside
      simp [daysInMonth, List.getElem?_eq_none (Nat.le_of_not_lt outside)] at nonempty
    refine ⟨(monthLengths (isLeapYear year)).take index, (monthLengths (isLeapYear year))[index],
      (monthLengths (isLeapYear year)).drop (index + 1), ?_, ?_⟩
    · rw [List.getElem_cons_drop, List.take_append_drop]
    · rw [List.length_take, Nat.min_eq_left (Nat.le_of_lt inside)]

/-! ## Dates and day numbers -/

section

variable {cycles : Int} {centuries fours ones : Nat} (centuries_le : centuries ≤ 3)
  (fours_le : fours ≤ 24) (ones_le : ones ≤ 3)
include centuries_le fours_le ones_le

/-- Where a year starts, by the cycles that have passed. -/
theorem yearStart_of_cycles :
    yearStart (400 * cycles + 100 * centuries + 4 * fours + ones + 1) =
      146097 * cycles + 36524 * centuries + 1461 * fours + 365 * ones - 719162 := by
  simp only [yearStart]
  omega

/-- Leap years are the last of four, but for the last four of a century that is not the last. -/
theorem isLeapYear_of_cycles :
    isLeapYear (400 * cycles + 100 * centuries + 4 * fours + ones + 1) = true ↔
      ones = 3 ∧ (fours ≠ 24 ∨ centuries = 3) := by
  rw [isLeapYear_iff]
  omega

end

/-- A day number is taken apart into cycles of years and a day of the last year. -/
theorem ofDayNumber_of_cycles (number : Int) :
    ∃ (cycles : Int) (centuries fours ones inYear : Nat),
      (centuries ≤ 3 ∧ fours ≤ 24 ∧ ones ≤ 3) ∧
      number = 146097 * cycles + 36524 * centuries + 1461 * fours + 365 * ones - 719162 + inYear ∧
      (inYear < 365 ∨ inYear = 365 ∧ ones = 3 ∧ (fours ≠ 24 ∨ centuries = 3)) ∧
      let year : Int := 400 * cycles + 100 * centuries + 4 * fours + ones + 1
      let place := placeInMonths 1 (monthLengths (isLeapYear year)) inYear
      ofDayNumber number = ⟨year, place.1, place.2⟩ := by
  refine ⟨_, _, _, _, _, ⟨Nat.min_le_right _ 3, ?_, Nat.min_le_right _ 3⟩, ?_, ?_, rfl⟩
  · omega
  · omega
  · omega

/-- The year of a day number is the one that the day lies in. -/
theorem ofDayNumber_in_year (number : Int) :
    ∃ (year : Int) (inYear : Nat), number = yearStart year + inYear ∧
      inYear < (monthLengths (isLeapYear year)).sum ∧
      let place := placeInMonths 1 (monthLengths (isLeapYear year)) inYear
      ofDayNumber number = ⟨year, place.1, place.2⟩ := by
  obtain ⟨cycles, centuries, fours, ones, inYear, ⟨centuries_le, fours_le, ones_le⟩, number_eq,
    inside, date_eq⟩ := ofDayNumber_of_cycles number
  have leap := @isLeapYear_of_cycles cycles _ _ _ centuries_le fours_le ones_le
  refine ⟨_, inYear, ?_, ?_, date_eq⟩
  · rw [yearStart_of_cycles centuries_le fours_le ones_le]
    exact number_eq
  · rw [sum_monthLengths]
    simp only [leap]
    split <;> omega

/-- The date of a day in a year. -/
theorem ofDayNumber_of_split {year : Int} {before after : List Nat} {length day : Nat}
    (split : monthLengths (isLeapYear year) = before ++ length :: after) (inside : day < length) :
    ofDayNumber (yearStart year + (before.sum + day : Nat)) =
      ⟨year, before.length + 1, day + 1⟩ := by
  have within : before.sum + day < (monthLengths (isLeapYear year)).sum := by
    rw [split, List.sum_append, List.sum_cons]
    omega
  obtain ⟨found, inYear, number_eq, insideFound, date_eq⟩ :=
    ofDayNumber_in_year (yearStart year + (before.sum + day : Nat))
  -- The day is in this year, so the division into cycles cannot have led to another.
  have same : year = found := year_unique within insideFound number_eq
  subst same
  have same : inYear = before.sum + day := by omega
  subst same
  rw [date_eq, split, placeInMonths_of_split 1 inside, Nat.add_comm 1]

/-- A valid date is a day of a month that splits the months of its year. -/
theorem IsValid.exists_split {date : Date} (valid : date.IsValid) :
    ∃ before length after day,
      monthLengths (isLeapYear date.year) = before ++ length :: after ∧ day < length ∧
        date = ⟨date.year, before.length + 1, day + 1⟩ ∧
        date.dayNumber = yearStart date.year + (before.sum + day : Nat) := by
  obtain ⟨year, month, day⟩ := date
  obtain ⟨_, _, day_ge, day_le⟩ := valid
  simp only at day_ge day_le ⊢
  obtain ⟨before, length, after, split, rfl⟩ :=
    exists_split_of_daysInMonth (Nat.lt_of_lt_of_le day_ge day_le)
  rw [daysInMonth_of_split split] at day_le
  refine ⟨before, length, after, day - 1, split, by omega, ?_, ?_⟩
  · rw [Nat.sub_add_cancel day_ge]
  · simp only [dayNumber, daysBeforeMonth_of_split split]
    omega

/-- **The date of the number of a valid date is that date.** -/
theorem ofDayNumber_dayNumber {date : Date} (valid : date.IsValid) :
    ofDayNumber date.dayNumber = date := by
  obtain ⟨before, length, after, day, split, inside, date_eq, number_eq⟩ := valid.exists_split
  rw [number_eq, ofDayNumber_of_split split inside]
  exact date_eq.symm

/-- The number of a valid date is within the years of times. -/
theorem IsValid.dayNumber_mem_range {date : Date} (valid : date.IsValid) :
    firstDay ≤ date.dayNumber ∧ date.dayNumber ≤ lastDay := by
  obtain ⟨before, length, after, day, split, inside, _, number_eq⟩ := valid.exists_split
  have within : before.sum + day < (monthLengths (isLeapYear date.year)).sum := by
    rw [split, List.sum_append, List.sum_cons]
    omega
  have start : firstDay ≤ yearStart date.year := by
    rcases Int.lt_or_eq_of_le valid.1 with later | same
    · have := yearStart_add_le later
      rw [firstDay]
      omega
    · rw [firstDay, same]
  have stop := yearStart_add_le (Int.lt_add_one_of_le valid.2.1)
  rw [number_eq, lastDay]
  omega

/-- **A day number within the years of times is that of a valid date.** -/
theorem ofDayNumber_valid {number : Int} (late : firstDay ≤ number) (early : number ≤ lastDay) :
    (ofDayNumber number).IsValid ∧ (ofDayNumber number).dayNumber = number := by
  obtain ⟨year, inYear, number_eq, inside, _⟩ := ofDayNumber_in_year number
  have year_ge : firstYear ≤ year := by
    by_contra before_first
    have := yearStart_add_le (Int.not_le.mp before_first)
    rw [firstDay] at late
    omega
  have year_le : year ≤ lastYear := by
    by_contra past_last
    have := yearStart_add_le (Int.not_le.mp past_last)
    rw [← yearStart_succ] at this
    rw [lastDay] at early
    omega
  obtain ⟨before, length, after, day, split, rfl, within⟩ := exists_split_of_lt_sum inside
  rw [number_eq, ofDayNumber_of_split split within]
  refine ⟨⟨year_ge, year_le, Nat.succ_pos _, ?_⟩, ?_⟩
  · rw [daysInMonth_of_split split]
    exact within
  · simp only [dayNumber, daysBeforeMonth_of_split split]
    omega

/-! ## The order of days -/

/-- The year, the month and the day. -/
def numbers (date : Date) : List Int := [date.year, date.month, date.day]

/-- A month ends before a later one begins. -/
theorem sum_add_le_of_split {before after before' after' : List Nat} {length length' : Nat}
    (same : before ++ length :: after = before' ++ length' :: after')
    (order : before.length < before'.length) : before.sum + length ≤ before'.sum := by
  rcases List.append_eq_append_iff.mp same with ⟨between, rfl, rest⟩ | ⟨between, rfl, _⟩
  · obtain _ | ⟨first, others⟩ := between
    · simp at order
    · cases rest
      rw [List.sum_append, List.sum_cons]
      omega
  · rw [List.length_append] at order
    omega

/-- **Valid dates are numbered in the order of their years, months and days.**  What follows the
dates counts only if they are the same. -/
theorem IsValid.lt_or_eq_of_append_lt {date later : Date} {rest rest' : List Int}
    (valid : date.IsValid) (valid' : later.IsValid)
    (order : date.numbers ++ rest < later.numbers ++ rest') :
    date.dayNumber < later.dayNumber ∨ date = later ∧ rest < rest' := by
  obtain ⟨before, length, after, day, split, inside, date_eq, number_eq⟩ := valid.exists_split
  obtain ⟨before', length', after', day', split', inside', later_eq, number_eq'⟩ :=
    valid'.exists_split
  have within : before.sum + day < (monthLengths (isLeapYear date.year)).sum := by
    rw [split, List.sum_append, List.sum_cons]
    omega
  rw [number_eq, number_eq']
  rw [date_eq, later_eq] at order ⊢
  simp only [numbers, List.cons_append, List.nil_append, List.cons_lt_cons_iff] at order ⊢
  rcases order with year | ⟨year, month | ⟨month, day | ⟨day, more⟩⟩⟩
  · have := yearStart_add_le year
    omega
  · rw [← year, split] at split'
    have := sum_add_le_of_split split' (by omega)
    rw [← year]
    omega
  · rw [← year, split] at split'
    obtain ⟨rfl, _⟩ := List.append_inj split' (by omega)
    rw [← year]
    omega
  · right
    refine ⟨?_, more⟩
    rw [year, Int.ofNat_inj.mp month, Int.ofNat_inj.mp day]

end ElectionReadiness.Date
