import ElectionReadiness.TimeZone.History
import Mathlib.Data.List.Basic

/-!
# An almanac of clock changes in natural numbers

Whether the clocks of a zone behave is a question about thousands of changes, and it is
answered by letting the kernel work them out.  The kernel calculates with natural numbers
at once and unfolds a recursor in one step, while integers and compiled matches cost it
many.  So the occurrences of rules are worked out here a second time, as naturals and with
recursors: readings count seconds from the day before the year 1, and savings and offsets
are moved up by a day so that none is negative.  An `Entry` is an occurrence in these
numbers, and `entries_occurrence` says that the entries of a set of rules are its
occurrences, as long as the rules start after 1900 and move the clock by a day at most
(`isModestRule`).
-/

set_option autoImplicit false

namespace ElectionReadiness.TimeZone.Almanac

/-! ## Folding and choosing by recursors -/

/-- Folds a list from the right. -/
noncomputable def fold {α β : Type} (step : α → β → β) (last : β) (items : List α) : β :=
  List.rec last (fun item _ later => step item later) items

@[simp] theorem fold_nil {α β : Type} (step : α → β → β) (last : β) :
    fold step last [] = last := rfl

@[simp] theorem fold_cons {α β : Type} (step : α → β → β) (last : β) (item : α)
    (items : List α) : fold step last (item :: items) = step item (fold step last items) := rfl

theorem fold_eq_foldr {α β : Type} (step : α → β → β) (last : β) (items : List α) :
    fold step last items = items.foldr step last := by
  induction items with
  | nil => rfl
  | cons item rest ih => rw [fold_cons, ih, List.foldr_cons]

/-- Lists in a row. -/
noncomputable def append {α : Type} (items more : List α) : List α := fold List.cons more items

theorem append_eq {α : Type} (items more : List α) : append items more = items ++ more := by
  rw [append, fold_eq_foldr, List.foldr_cons_eq_append, List.map_id']

/-- Chooses by a truth value. -/
noncomputable def pick {α : Type} (condition : Bool) (yes no : α) : α := Bool.rec no yes condition

theorem pick_eq_ite {α : Type} (condition : Bool) (yes no : α) :
    pick condition yes no = if condition = true then yes else no := by
  cases condition <;> rfl

theorem pick_ble {α : Type} (m n : Nat) (yes no : α) :
    pick (Nat.ble m n) yes no = if m ≤ n then yes else no := by
  simp only [pick_eq_ite, Nat.ble_eq]

theorem pick_eq_and (one other : Bool) : pick one other false = (one && other) := by
  cases one <;> rfl

/-- A predicate holds of all items. -/
noncomputable def every {α : Type} (holds : α → Bool) (items : List α) : Bool :=
  fold (fun item later => pick (holds item) later false) true items

theorem every_iff {α : Type} {holds : α → Bool} {items : List α} :
    every holds items = true ↔ ∀ item ∈ items, holds item = true := by
  induction items with
  | nil => simp [every]
  | cons item rest ih =>
      rw [every, fold_cons, ← every, pick_eq_and, Bool.and_eq_true, ih, List.forall_mem_cons]

/-! ## Integers moved up by a day -/

/-- So many seconds in units, moved up by a day. -/
noncomputable def raised (unit : Nat) (value : Int) : Nat :=
  Int.rec (fun n => unit * n + 86400) (fun n => 86400 - unit * (n + 1)) value

/-- So many units are a day at most. -/
noncomputable def isModest (unit : Nat) (value : Int) : Bool :=
  Int.rec (fun n => Nat.ble (unit * n) 86400) (fun n => Nat.ble (unit * (n + 1)) 86400) value

theorem raised_eq {unit : Nat} {value : Int} (modest : isModest unit value = true) :
    (raised unit value : Int) = unit * value + 86400 := by
  cases value with
  | ofNat n => simp [raised]
  | negSucc n =>
      have bound : unit * (n + 1) ≤ 86400 := Nat.le_of_ble_eq_true modest
      have exact : raised unit (.negSucc n) + unit * (n + 1) = 86400 := Nat.sub_add_cancel bound
      have product : (unit : Int) * Int.negSucc n = -((unit * (n + 1) : Nat) : Int) := by
        rw [Int.negSucc_eq, Int.mul_neg]
        norm_cast
      omega

theorem raised_le {unit : Nat} {value : Int} (modest : isModest unit value = true) :
    raised unit value ≤ 172800 := by
  cases value with
  | ofNat n => exact Nat.add_le_add_right (Nat.le_of_ble_eq_true modest) 86400
  | negSucc n => exact Nat.le_trans (Nat.sub_le ..) (by decide)

/-! ## Days -/

/-- A rule holds in a year. -/
noncomputable def holds (years : Years) (y : Nat) : Bool :=
  Years.rec (fun year => Nat.beq y year)
    (fun first last => pick (Nat.ble first y) (Nat.ble y last) false)
    (fun first => Nat.ble first y) years

theorem holds_eq (years : Years) (y : Nat) : holds years y = years.has y := by
  rw [Bool.eq_iff_iff]
  cases years with
  | only year => simp [holds, Years.has]
  | between first last => simp [holds, Years.has, pick_eq_and]
  | since first => simp [holds, Years.has]

/-- A leap year. -/
noncomputable def isLeap (y : Nat) : Bool :=
  pick (Nat.beq (y % 4) 0) (pick (Nat.beq (y % 100) 0) (Nat.beq (y % 400) 0) true) false

theorem isLeap_eq (y : Nat) : isLeap y = Date.isLeapYear y := by
  have fours : Nat.beq (y % 4) 0 = ((y : Int) % 4 == 0) := by
    rw [Bool.eq_iff_iff, Nat.beq_eq, beq_iff_eq]
    omega
  have hundreds : Nat.beq (y % 100) 0 = ((y : Int) % 100 == 0) := by
    rw [Bool.eq_iff_iff, Nat.beq_eq, beq_iff_eq]
    omega
  have fourHundreds : Nat.beq (y % 400) 0 = ((y : Int) % 400 == 0) := by
    rw [Bool.eq_iff_iff, Nat.beq_eq, beq_iff_eq]
    omega
  rw [isLeap, Date.isLeapYear, fours, hundreds, fourHundreds, pick_eq_and, bne]
  cases (y : Int) % 100 == 0 <;> rfl

/-- The days of the year before a month. -/
noncomputable def daysBefore (leap : Bool) (month : Date.Month) : Nat :=
  pick leap (Date.Month.rec 0 31 60 91 121 152 182 213 244 274 305 335 month)
    (Date.Month.rec 0 31 59 90 120 151 181 212 243 273 304 334 month)

theorem daysBefore_eq (leap : Bool) (month : Date.Month) :
    daysBefore leap month = Date.daysBeforeMonth leap month.number := by
  cases leap <;> cases month <;> rfl

/-- The days of a month. -/
noncomputable def length (leap : Bool) (month : Date.Month) : Nat :=
  Date.Month.rec 31 (pick leap 29 28) 31 30 31 30 31 31 30 31 30 31 month

theorem length_eq (year : Int) (month : Date.Month) :
    length (Date.isLeapYear year) month = Date.daysInMonth year month.number := by
  unfold Date.daysInMonth
  cases Date.isLeapYear year <;> cases month <;> rfl

/-- The days from the start of the year 1 to a month. -/
noncomputable def monthStart (y : Nat) (month : Date.Month) : Nat :=
  365 * (y - 1) + (y - 1) / 4 + (y - 1) / 400 - (y - 1) / 100 + daysBefore (isLeap y) month

/-- A count of days from the day before the year 1 as a day number. -/
theorem dayNumber_eq {y : Nat} (late : 1800 ≤ y) (month : Date.Month) (day : Nat) :
    (Date.mk y month.number day).dayNumber = ((monthStart y month + day : Nat) : Int) - 719163 := by
  simp only [Date.dayNumber, Date.yearStart, monthStart, isLeap_eq, daysBefore_eq]
  omega

/-- The place of a weekday in the week. -/
noncomputable def weekdayIndex (weekday : Date.Weekday) : Nat :=
  Date.Weekday.rec 0 1 2 3 4 5 6 weekday

theorem weekdayIndex_eq (weekday : Date.Weekday) : weekdayIndex weekday = weekday.index := by
  cases weekday <;> rfl

/-- The count of days that a day of a month has in a year. -/
noncomputable def dayCount (y : Nat) (month : Date.Month) (day : MonthDay) : Nat :=
  MonthDay.rec (fun day => monthStart y month + day)
    (fun weekday =>
      (fun final => final - (final + 13 - weekdayIndex weekday) % 7)
        (monthStart y month + length (isLeap y) month))
    (fun weekday day =>
      (fun first => first + (weekdayIndex weekday + 7 - (first + 6) % 7) % 7)
        (monthStart y month + day))
    (fun weekday day =>
      (fun final => final - (final + 13 - weekdayIndex weekday) % 7)
        (monthStart y month + day))
    day

/-- The weeks are in step with the count of days. -/
theorem weekdayIndex_dayNumber {number : Int} {count : Nat} (same : number = count - 719163) :
    Date.weekdayIndex number = (count + 6) % 7 := by
  unfold Date.weekdayIndex
  omega

theorem dayCount_eq {y : Nat} (late : 1800 ≤ y) (month : Date.Month) (day : MonthDay) :
    day.dayNumber y month.number = (dayCount y month day : Int) - 719163 := by
  have large : 600000 ≤ monthStart y month := by
    unfold monthStart
    omega
  cases day with
  | on day => exact dayNumber_eq late month day
  | last weekday =>
      have index_le : weekday.index ≤ 6 := by cases weekday <;> decide
      have final := dayNumber_eq late month (length (isLeap y) month)
      rw [isLeap_eq, length_eq] at final
      simp only [MonthDay.dayNumber, daysSince, weekdayIndex_dayNumber final, dayCount,
        weekdayIndex_eq, isLeap_eq, length_eq]
      omega
  | onOrAfter weekday day =>
      have first := dayNumber_eq late month day
      simp only [MonthDay.dayNumber, daysUntil, weekdayIndex_dayNumber first, dayCount,
        weekdayIndex_eq]
      omega
  | onOrBefore weekday day =>
      have index_le : weekday.index ≤ 6 := by cases weekday <;> decide
      have final := dayNumber_eq late month day
      simp only [MonthDay.dayNumber, daysSince, weekdayIndex_dayNumber final, dayCount,
        weekdayIndex_eq]
      omega

theorem dayCount_large {y : Nat} (late : 1800 ≤ y) (month : Date.Month) (day : MonthDay) :
    600000 ≤ dayCount y month day := by
  have large : 600006 ≤ monthStart y month := by
    unfold monthStart
    omega
  cases day <;> simp only [dayCount] <;> omega

/-! ## Entries -/

/-- An occurrence in natural numbers. -/
structure Entry where
  reading : Nat
  clock : Clock
  saving : Nat

/-- The occurrence of an entry. -/
def Entry.occurrence (entry : Entry) : Occurrence :=
  ⟨(entry.reading : Int) - 62135683200, entry.clock, (entry.saving : Int) - 86400⟩

/-- An entry that is late enough, and whose saving is small enough, to be reckoned with. -/
structure Entry.Sound (entry : Entry) : Prop where
  reading_large : 691200 ≤ entry.reading
  saving_le : entry.saving ≤ 172800

/-- The seconds of a time of day. -/
noncomputable def seconds (time : ClockTime) : Nat :=
  ClockTime.rec (fun hours minutes => 3600 * hours + 60 * minutes)
    (fun hours minutes => 3600 * hours + 60 * minutes)
    (fun hours minutes => 3600 * hours + 60 * minutes) time

theorem seconds_eq (time : ClockTime) : (seconds time : Int) = time.seconds := by
  cases time <;> simp [seconds, ClockTime.seconds, hms]

/-- What a rule does in a year. -/
noncomputable def inYear (change : YearlyChange) (y : Nat) : Entry :=
  ⟨86400 * dayCount y change.month change.day + seconds change.time, change.time.clock,
    raised 60 change.saving⟩

/-- The first year in which a rule may hold. -/
noncomputable def firstYear (years : Years) : Nat :=
  Years.rec (fun year => year) (fun first _ => first) (fun first => first) years

/-- A rule starts after 1900 and moves the clock by a day at most. -/
noncomputable def isModestRule (change : YearlyChange) : Bool :=
  pick (Nat.ble 1900 (firstYear change.years)) (isModest 60 change.saving) false

theorem isModestRule_iff {change : YearlyChange} :
    isModestRule change = true ↔
      1900 ≤ firstYear change.years ∧ isModest 60 change.saving = true := by
  rw [isModestRule, pick_eq_and, Bool.and_eq_true, Nat.ble_eq]

theorem inYear_occurrence {change : YearlyChange} {y : Nat} (late : 1800 ≤ y)
    (modest : isModestRule change = true) :
    (inYear change y).occurrence = change.inYear y := by
  have day := dayCount_eq late change.month change.day
  have time := seconds_eq change.time
  have saving := raised_eq (isModestRule_iff.mp modest).2
  simp only [inYear, Entry.occurrence, YearlyChange.inYear, Occurrence.mk.injEq, true_and]
  omega

theorem inYear_sound {change : YearlyChange} {y : Nat} (late : 1800 ≤ y)
    (modest : isModestRule change = true) : (inYear change y).Sound where
  reading_large := by
    have := dayCount_large late change.month change.day
    simp only [inYear]
    omega
  saving_le := raised_le (isModestRule_iff.mp modest).2

/-- Puts an entry before the first that reads later or the same. -/
noncomputable def insert (entry : Entry) (entries : List Entry) : List Entry :=
  List.rec [entry] (fun first rest inserted =>
    pick (Nat.ble entry.reading first.reading) (entry :: first :: rest) (first :: inserted))
    entries

theorem insert_cons (entry first : Entry) (rest : List Entry) :
    insert entry (first :: rest) =
      if entry.reading ≤ first.reading then entry :: first :: rest
      else first :: insert entry rest :=
  pick_ble ..

theorem insert_occurrence (entry : Entry) (entries : List Entry) :
    (insert entry entries).map Entry.occurrence =
      insertOccurrence entry.occurrence (entries.map Entry.occurrence) := by
  induction entries with
  | nil => rfl
  | cons first rest ih =>
      have compare : entry.occurrence.reading ≤ first.occurrence.reading ↔
          entry.reading ≤ first.reading := by
        simp only [Entry.occurrence]
        omega
      rw [insert_cons, List.map_cons, insertOccurrence]
      simp only [compare]
      split
      · rfl
      · rw [List.map_cons, ih]

theorem mem_insert {entry other : Entry} {entries : List Entry} :
    other ∈ insert entry entries ↔ other = entry ∨ other ∈ entries := by
  induction entries with
  | nil => exact List.mem_singleton.trans (by simp)
  | cons first rest ih =>
      rw [insert_cons]
      split
      · exact List.mem_cons
      · rw [List.mem_cons, ih, List.mem_cons, or_left_comm]

/-- What a set of rules does in a year, in the order of the clock readings. -/
noncomputable def entriesIn (y : Nat) (rules : List YearlyChange) : List Entry :=
  fold (fun change later => pick (holds change.years y) (insert (inYear change y) later) later)
    [] rules

theorem entriesIn_cons (y : Nat) (change : YearlyChange) (rules : List YearlyChange) :
    entriesIn y (change :: rules) =
      if change.years.has y then insert (inYear change y) (entriesIn y rules)
      else entriesIn y rules := by
  rw [entriesIn, fold_cons, ← entriesIn, pick_eq_ite, holds_eq]

theorem entriesIn_occurrence {y : Nat} (late : 1800 ≤ y) {rules : List YearlyChange}
    (modest : ∀ change ∈ rules, isModestRule change = true) :
    (entriesIn y rules).map Entry.occurrence = occurrencesIn rules y := by
  induction rules with
  | nil => rfl
  | cons change rest ih =>
      rw [List.forall_mem_cons] at modest
      rw [entriesIn_cons, occurrencesIn, List.filter_cons]
      split
      · rw [insert_occurrence, inYear_occurrence late modest.1, ih modest.2]
        rfl
      · exact ih modest.2

theorem entriesIn_sound {y : Nat} (late : 1800 ≤ y) {rules : List YearlyChange}
    (modest : ∀ change ∈ rules, isModestRule change = true) :
    ∀ entry ∈ entriesIn y rules, entry.Sound := by
  induction rules with
  | nil => simp [entriesIn]
  | cons change rest ih =>
      rw [List.forall_mem_cons] at modest
      rw [entriesIn_cons]
      split
      · intro entry mem
        rcases mem_insert.mp mem with rfl | mem
        · exact inYear_sound late modest.1
        · exact ih modest.2 entry mem
      · exact ih modest.2

/-- What a set of rules does in so many years from a year on. -/
noncomputable def entriesFor (rules : List YearlyChange) (count : Nat) : Nat → List Entry :=
  Nat.rec (fun _ => []) (fun _ later y => append (entriesIn y rules) (later (y + 1))) count

theorem entriesFor_succ (rules : List YearlyChange) (count y : Nat) :
    entriesFor rules (count + 1) y = entriesIn y rules ++ entriesFor rules count (y + 1) :=
  append_eq ..

theorem entriesFor_sound {y : Nat} (late : 1800 ≤ y) {rules : List YearlyChange}
    (modest : ∀ change ∈ rules, isModestRule change = true) (count : Nat) :
    ∀ entry ∈ entriesFor rules count y, entry.Sound := by
  induction count generalizing y with
  | zero => intro entry mem; cases mem
  | succ count ih =>
      intro entry mem
      rw [entriesFor_succ, List.mem_append] at mem
      rcases mem with mem | mem
      · exact entriesIn_sound late modest entry mem
      · exact ih (Nat.le_succ_of_le late) entry mem

theorem entriesFor_occurrence {y : Nat} (late : 1800 ≤ y) {rules : List YearlyChange}
    (modest : ∀ change ∈ rules, isModestRule change = true) (count : Nat) :
    (entriesFor rules count y).map Entry.occurrence =
      (List.range' y count).flatMap (occurrencesIn rules) := by
  induction count generalizing y with
  | zero => rfl
  | succ count ih =>
      rw [entriesFor_succ, List.map_append, entriesIn_occurrence late modest,
        ih (Nat.le_succ_of_le late), List.range'_succ, List.flatMap_cons]

/-! ## The years of rules -/

/-- The entries of a set of rules from 1900 up to a year. -/
noncomputable def entries (rules : List YearlyChange) (upTo : Nat) : List Entry :=
  entriesFor rules (upTo - 1899) 1900

theorem has_eq_false {years : Years} {y : Nat} (early : y < firstYear years) :
    years.has y = false := by
  cases years <;> simp only [firstYear] at early <;> simp [Years.has] <;> omega

theorem occurrencesIn_eq_nil {y : Nat} (early : y < 1900) {rules : List YearlyChange}
    (modest : ∀ change ∈ rules, isModestRule change = true) : occurrencesIn rules y = [] := by
  have none_holds : rules.filter (·.years.has y) = [] := by
    rw [List.filter_eq_nil_iff]
    intro change mem
    rw [has_eq_false (Nat.lt_of_lt_of_le early (isModestRule_iff.mp (modest change mem)).1)]
    exact Bool.false_ne_true
  rw [occurrencesIn, none_holds, List.foldr_nil]

/-- Modest rules do nothing before 1900. -/
theorem flatMap_occurrencesIn_eq_nil {rules : List YearlyChange}
    (modest : ∀ change ∈ rules, isModestRule change = true) {start count : Nat}
    (early : start + count ≤ 1900) :
    (List.range' start count).flatMap (occurrencesIn rules) = [] := by
  rw [List.flatMap_eq_nil_iff]
  intro y mem
  rw [List.mem_range'_1] at mem
  exact occurrencesIn_eq_nil (by omega) modest

/-- **The entries of a set of rules are its occurrences.** -/
theorem entries_occurrence {rules : List YearlyChange}
    (modest : ∀ change ∈ rules, isModestRule change = true) {upTo : Nat} (known : upTo ≤ 2099) :
    (entries rules upTo).map Entry.occurrence = occurrences rules upTo := by
  have years : occurrences rules upTo =
      (List.range' 1800 (upTo + 1 - 1800)).flatMap (occurrencesIn rules) := by
    rw [occurrences, List.range'_eq_map_range, List.flatMap_map, firstRuleYear, lastRuleYear,
      Nat.min_eq_left known]
  rw [years, entries, entriesFor_occurrence (by decide) modest]
  by_cases late : 1900 ≤ upTo
  · have split : upTo + 1 - 1800 = 100 + (upTo - 1899) := by omega
    have early : (List.range' 1800 100).flatMap (occurrencesIn rules) = [] :=
      flatMap_occurrencesIn_eq_nil modest (by decide)
    rw [split, ← List.range'_append_1, List.flatMap_append, early, List.nil_append]
  · have none_left : upTo - 1899 = 0 := by omega
    rw [none_left, List.range'_zero, List.flatMap_nil,
      flatMap_occurrencesIn_eq_nil modest (by omega)]

theorem entries_sound {rules : List YearlyChange}
    (modest : ∀ change ∈ rules, isModestRule change = true) (upTo : Nat) :
    ∀ entry ∈ entries rules upTo, entry.Sound :=
  entriesFor_sound (by decide) modest (upTo - 1899)

end ElectionReadiness.TimeZone.Almanac
