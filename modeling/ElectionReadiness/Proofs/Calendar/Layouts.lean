import ElectionReadiness.Proofs.Calendar.CivilOrder
import ElectionReadiness.Proofs.Calendar.DayNumber
import ElectionReadiness.Proofs.Calendar.Spelling

/-!
# The layouts of civil times

A text is read as a time exactly if it spells the fields of that time in one of the layouts
(`CivilTime.reads_what_is_spelled`).  The fields must be possible, with a date that the calendar
has and second 60 for a leap second, and then they are the fields of one time only
(`CivilTime.Fields.time?_eq_some_iff`).  Every possible fields that are spelled have a time
(`CivilTime.Fields.ArePossible.exists_denote`).

The layouts have different numbers of colons, and no part of a time has one, so no text is
spelled in two layouts and it does not matter which is tried first.  A text of a shorter layout
goes on with zeros as one of a longer layout with the same fields.
-/

set_option autoImplicit false

namespace ElectionReadiness.CivilTime

open Json (AreDigits)
open Text (AllBlank BlanksBefore BlanksAround NoBlankFirst blanksBefore_of_spelled
  blanksAround_of_blanksBefore)

/-! ## The time of fields -/

/-- Fields that some time has: the calendar has the date, and second 60 is a leap second. -/
structure Fields.ArePossible (fields : Fields) : Prop where
  date_valid : fields.date.IsValid
  hour_lt : fields.hour < 24
  minute_lt : fields.minute < 60
  second_le : fields.second ≤ 60

/-- Fields are possible, and a time has them. -/
structure Fields.Denote (fields : Fields) (time : CivilTime) : Prop
    extends fields.ArePossible where
  date : Date.ofDayNumber time.day = fields.date
  hour : time.second / 3600 = fields.hour
  minute : time.second / 60 % 60 = fields.minute
  /-- Second 60 is the leap second that extends second 59. -/
  second : time.second % 60 = min fields.second 59
  nano : time.nano = fields.nano + if fields.second = 60 then 1000000000 else 0

theorem ofFields?_eq_some_iff {date : Date} {hour minute second nano : Nat} {time : CivilTime} :
    ofFields? date hour minute second nano = some time ↔
      (date.IsValid ∧ hour < 24 ∧ minute < 60 ∧ second ≤ 60) ∧ time.day = date.dayNumber ∧
        time.second = 3600 * hour + 60 * minute + min second 59 ∧
        time.nano = nano + if second = 60 then 1000000000 else 0 := by
  unfold ofFields?
  split
  · next possible =>
    have second_le := possible.2.2.2
    refine Iff.trans ?_ (and_iff_right possible).symm
    simp only
    split
    · next leap =>
      have last : 60 * (60 * hour + minute) + 59 = 3600 * hour + 60 * minute + min second 59 := by
        omega
      rw [ofParts?_eq_some_iff, last]
    · next plain =>
      have here : 60 * (60 * hour + minute) + second =
          3600 * hour + 60 * minute + min second 59 := by omega
      rw [ofParts?_eq_some_iff, here, Nat.add_zero]
  · next impossible => simp [impossible]

/-- The time of fields is the one that has them. -/
theorem Fields.time?_eq_some_iff {fields : Fields} {time : CivilTime} :
    fields.time? = some time ↔ fields.Denote time := by
  rw [time?, ofFields?_eq_some_iff]
  constructor
  · rintro ⟨⟨valid, hour_lt, minute_lt, second_le⟩, day_eq, second_eq, nano_eq⟩
    exact {
      date_valid := valid, hour_lt, minute_lt, second_le
      date := by rw [day_eq, Date.ofDayNumber_dayNumber valid]
      hour := by omega
      minute := by omega
      second := by omega
      nano := nano_eq }
  · rintro ⟨⟨valid, hour_lt, minute_lt, second_le⟩, date, hour, minute, second, nano⟩
    refine ⟨⟨valid, hour_lt, minute_lt, second_le⟩, ?_, by omega, nano⟩
    rw [← date, (Date.ofDayNumber_valid time.day_ge time.day_le).2]

/-- Possible fields have a time if their fraction is less than a second. -/
theorem Fields.ArePossible.exists_denote {fields : Fields} (possible : fields.ArePossible)
    (fraction : fields.nano < 1000000000) : ∃ time, fields.Denote time := by
  obtain ⟨late, early⟩ := possible.date_valid.dayNumber_mem_range
  obtain ⟨valid, hour_lt, minute_lt, second_le⟩ := possible
  have second_lt : 3600 * fields.hour + 60 * fields.minute + min fields.second 59 < 86400 := by
    omega
  have nano_lt : fields.nano + (if fields.second = 60 then 1000000000 else 0) < 2000000000 := by
    split <;> omega
  exact ⟨⟨_, _, _, late, early, second_lt, nano_lt⟩, Fields.time?_eq_some_iff.mp
    (ofFields?_eq_some_iff.mpr ⟨⟨valid, hour_lt, minute_lt, second_le⟩, rfl, rfl, rfl⟩)⟩

/-- A fraction of a second is less than a second. -/
theorem IsFraction.lt {text : List Char} {nano : Nat} (isFraction : IsFraction text nano) :
    nano < 1000000000 := by
  cases isFraction with
  | none => decide
  | @digits digits areDigits =>
      have below := Decimal.value_lt areDigits.all_digits
      rw [Nat.div_lt_iff_lt_mul (Nat.pow_pos (by decide)), Nat.mul_comm]
      exact Nat.mul_lt_mul_of_pos_left below (by decide)

/-- The fraction of what is spelled is less than a second. -/
theorem Spells.nano_lt {layout : Layout} {text : List Char} {fields : Fields}
    (spelled : Spells layout text fields) : fields.nano < 1000000000 := by
  cases spelled with
  | seconds _ _ _ _ _ isSecond =>
      obtain ⟨_, ⟨_, isFraction⟩, _⟩ := isSecond
      exact isFraction.lt
  | minutes _ _ _ _ _ => exact (by decide : 0 < 1000000000)
  | days _ _ _ => exact (by decide : 0 < 1000000000)

/-! ## No text is spelled in two layouts -/

/-- The colons between the fields of a layout. -/
def Layout.colons : Layout → Nat
  | seconds => 2
  | minutes => 1
  | days => 0

theorem count_colon_of_allBlank {text : List Char} (blank : AllBlank text) :
    text.count ':' = 0 := by
  rw [List.count_eq_zero]
  intro mem
  exact absurd (blank ':' mem) (by decide)

theorem count_colon_of_areDigits {digits : List Char} (areDigits : AreDigits digits) :
    digits.count ':' = 0 := by
  rw [List.count_eq_zero]
  intro mem
  exact absurd (areDigits.all_digits ':' mem) (by decide)

theorem IsPair.count_colon {text : List Char} {n : Nat} (isPair : IsPair text n) :
    text.count ':' = 0 := count_colon_of_areDigits isPair.areDigits

theorem IsYear.count_colon {text : List Char} {year : Int} (isYear : IsYear text year) :
    text.count ':' = 0 := by
  cases isYear with
  | plain areDigits _ => exact count_colon_of_areDigits areDigits
  | after areDigits => simpa using count_colon_of_areDigits areDigits
  | before areDigits => simpa using count_colon_of_areDigits areDigits

theorem IsSecond.count_colon {text : List Char} {second : Nat × Nat}
    (isSecond : IsSecond text second) : text.count ':' = 0 := by
  obtain ⟨isPair, isFraction⟩ := isSecond
  cases isFraction with
  | none => simpa using isPair.count_colon
  | digits areDigits => simp [isPair.count_colon, count_colon_of_areDigits areDigits]

section

variable {α : Type} {spells : List Char → α → Prop}
  (none_inside : ∀ {text : List Char} {value : α}, spells text value → text.count ':' = 0)
  {text : List Char} {value : α}
include none_inside

theorem count_colon_of_blanksBefore (spelled : BlanksBefore spells text value) :
    text.count ':' = 0 := by
  obtain ⟨blank, spelled⟩ := spelled
  simp [count_colon_of_allBlank blank, none_inside spelled]

theorem count_colon_of_blanksAround (spelled : BlanksAround spells text value) :
    text.count ':' = 0 := by
  obtain ⟨blank, spelled, blankAfter⟩ := spelled
  simp [count_colon_of_allBlank blank, none_inside spelled, count_colon_of_allBlank blankAfter]

end

/-- A layout can be told from the colons of a text. -/
theorem Spells.count_colon {layout : Layout} {text : List Char} {fields : Fields}
    (spelled : Spells layout text fields) : text.count ':' = layout.colons := by
  cases spelled with
  | seconds isYear isMonth isDay isHour isMinute isSecond =>
      simp [Layout.colons, count_colon_of_blanksAround IsYear.count_colon isYear,
        count_colon_of_blanksAround IsPair.count_colon isMonth,
        count_colon_of_blanksAround IsPair.count_colon isDay,
        count_colon_of_blanksAround IsPair.count_colon isHour,
        count_colon_of_blanksAround IsPair.count_colon isMinute,
        count_colon_of_blanksAround IsSecond.count_colon isSecond]
  | minutes isYear isMonth isDay isHour isMinute =>
      simp [Layout.colons, count_colon_of_blanksBefore IsYear.count_colon isYear,
        count_colon_of_blanksBefore IsPair.count_colon isMonth,
        count_colon_of_blanksBefore IsPair.count_colon isDay,
        count_colon_of_blanksBefore IsPair.count_colon isHour,
        count_colon_of_blanksBefore IsPair.count_colon isMinute]
  | days isYear isMonth isDay =>
      simp [Layout.colons, count_colon_of_blanksBefore IsYear.count_colon isYear,
        count_colon_of_blanksBefore IsPair.count_colon isMonth,
        count_colon_of_blanksBefore IsPair.count_colon isDay]

theorem Layout.colons_injective {one other : Layout} (same : one.colons = other.colons) :
    one = other := by
  cases one <;> cases other
  case seconds.seconds | minutes.minutes | days.days => rfl
  all_goals cases same

/-- At most one layout reads a text. -/
theorem layout_unique {one other : Layout} {text : List Char}
    (reads : (readAs? one.scan text).isSome = true)
    (reads' : (readAs? other.scan text).isSome = true) : one = other := by
  obtain ⟨time, read⟩ := Option.isSome_iff_exists.mp reads
  obtain ⟨time', read'⟩ := Option.isSome_iff_exists.mp reads'
  obtain ⟨fields, spelled, _⟩ := readAs?_iff.mp read
  obtain ⟨fields', spelled', _⟩ := readAs?_iff.mp read'
  exact Layout.colons_injective (spelled.count_colon.symm.trans spelled'.count_colon)

/-! ## Trying the layouts -/

/-- The time that the first of some layouts reads. -/
def readInOrder? (order : List Layout) (text : String) : Option CivilTime :=
  order.findSome? fun layout => readAs? layout.scan (Text.trim text.toList)

theorem read?_eq_readInOrder? (text : String) : read? text = readInOrder? Layout.all text := by
  simp only [read?, readInOrder?, Layout.all, List.findSome?_cons, List.findSome?_nil, Layout.scan]
  cases readAs? secondLayout (Text.trim text.toList) <;>
    cases readAs? minuteLayout (Text.trim text.toList) <;>
    cases readAs? dayLayout (Text.trim text.toList) <;> rfl

/-- In whatever order all layouts are tried, what is read is what some layout reads. -/
theorem readInOrder?_eq_some_iff {order : List Layout} (every : ∀ layout, layout ∈ order)
    {text : String} {time : CivilTime} :
    readInOrder? order text = some time ↔
      ∃ layout : Layout, readAs? layout.scan (Text.trim text.toList) = some time := by
  constructor
  · intro read
    obtain ⟨layout, _, reads⟩ := List.exists_of_findSome?_eq_some read
    exact ⟨layout, reads⟩
  · rintro ⟨layout, reads⟩
    have found : (readInOrder? order text).isSome = true :=
      List.findSome?_isSome_iff.mpr ⟨layout, every layout, by rw [reads]; rfl⟩
    obtain ⟨time', read⟩ := Option.isSome_iff_exists.mp found
    obtain ⟨layout', _, reads'⟩ := List.exists_of_findSome?_eq_some read
    -- No other layout reads the text, so none can be found in its place.
    have same : layout' = layout := layout_unique (by rw [reads']; rfl) (by rw [reads]; rfl)
    rw [read, ← reads', same, reads]

theorem read?_eq_some_iff {text : String} {time : CivilTime} :
    read? text = some time ↔
      ∃ layout fields, Spells layout (Text.trim text.toList) fields ∧ fields.Denote time := by
  rw [read?_eq_readInOrder?, readInOrder?_eq_some_iff Layout.mem_all]
  simp only [readAs?_iff, Fields.time?_eq_some_iff]

/-- What is accepted is what spells possible fields. -/
theorem isSome_read?_iff {text : String} :
    (read? text).isSome = true ↔
      ∃ layout fields, Spells layout (Text.trim text.toList) fields ∧ fields.ArePossible := by
  simp only [Option.isSome_iff_exists, read?_eq_some_iff]
  constructor
  · rintro ⟨_, layout, fields, spelled, denote⟩
    exact ⟨layout, fields, spelled, denote.toArePossible⟩
  · rintro ⟨layout, fields, spelled, possible⟩
    obtain ⟨time, denote⟩ := possible.exists_denote spelled.nano_lt
    exact ⟨time, layout, fields, spelled, denote⟩

/-! ## Going on with zeros -/

theorem isPair_zeros : IsPair ['0', '0'] 0 where
  areDigits := ⟨by simp, List.all_eq_true.mp rfl⟩
  length_le := Nat.le_refl 2
  value := rfl

/-- A time to the minute is a time to the second. -/
theorem Spells.addSeconds {text : List Char} {fields : Fields}
    (spelled : Spells .minutes text fields) : Spells .seconds (text ++ ":00".toList) fields := by
  obtain _ | ⟨isYear, isMonth, isDay, isHour, isMinute⟩ := spelled
  have isSecond : IsSecond ['0', '0'] (0, 0) := .fraction isPair_zeros .none
  have longer := Spells.seconds (blanksAround_of_blanksBefore isYear)
    (blanksAround_of_blanksBefore isMonth) (blanksAround_of_blanksBefore isDay)
    (blanksAround_of_blanksBefore isHour) (blanksAround_of_blanksBefore isMinute)
    (blanksAround_of_blanksBefore (blanksBefore_of_spelled isSecond))
  simpa using longer

/-- A day is the minute in which it begins. -/
theorem Spells.addMinutes {text : List Char} {fields : Fields}
    (spelled : Spells .days text fields) : Spells .minutes (text ++ "T00:00".toList) fields := by
  obtain _ | _ | ⟨isYear, isMonth, isDay⟩ := spelled
  have zeros := blanksBefore_of_spelled isPair_zeros
  simpa using Spells.minutes isYear isMonth isDay zeros zeros

/-- A trimmed text that goes on without a blank at its end is still trimmed. -/
theorem trim_append {text more : List Char} (trimmed : Text.trim text = text)
    (nonempty : text ≠ []) (last : NoBlankFirst more.reverse) (goesOn : more ≠ []) :
    Text.trim (text ++ more) = text ++ more := by
  refine Text.trim_eq_self ?_ ?_
  · exact (Text.noBlankFirst_of_trim trimmed).append nonempty more
  · rw [List.reverse_append]
    exact last.append (by simpa using goesOn) _

/-- If what a layout reads goes on as a text with the same fields, it is still read as the
same time. -/
theorem read?_append {layout longer : Layout} {text more : String}
    (trimmed : Text.trim text.toList = text.toList)
    (reads : (readAs? layout.scan text.toList).isSome = true)
    (last : NoBlankFirst more.toList.reverse) (goesOn : more.toList ≠ [])
    (adds : ∀ {fields}, Spells layout text.toList fields →
      Spells longer (text.toList ++ more.toList) fields) :
    read? (text ++ more) = read? text := by
  obtain ⟨time, read⟩ := Option.isSome_iff_exists.mp reads
  obtain ⟨fields, spelled, made⟩ := readAs?_iff.mp read
  have denote := Fields.time?_eq_some_iff.mp made
  have nonempty : text.toList ≠ [] := by
    intro empty
    rw [empty] at read
    cases layout <;> cases read
  have short : read? text = some time :=
    read?_eq_some_iff.mpr ⟨layout, fields, by rwa [trimmed], denote⟩
  have long : read? (text ++ more) = some time := by
    refine read?_eq_some_iff.mpr ⟨longer, fields, ?_, denote⟩
    rw [String.toList_append, trim_append trimmed nonempty last goesOn]
    exact adds spelled
  rw [long, short]

/-! ## Reading -/

/-- **A text is read as a time exactly if it spells the fields of the time in a layout.**  It is
read as some time if the fields that it spells are possible.  At most one layout reads a text,
so in whatever order they are tried, the same is read.  A trimmed text of a shorter layout goes
on with zeros as the same time in the longer ones. -/
theorem reads_what_is_spelled (text : String) :
    (∀ time, read? text = some time ↔
      ∃ layout fields, Spells layout (Text.trim text.toList) fields ∧ fields.Denote time) ∧
    ((read? text).isSome = true ↔
      ∃ layout fields, Spells layout (Text.trim text.toList) fields ∧ fields.ArePossible) ∧
    (∀ (written : List Char) (one other : Layout), (readAs? one.scan written).isSome = true →
      (readAs? other.scan written).isSome = true → one = other) ∧
    (∀ order : List Layout, (∀ layout, layout ∈ order) →
      readInOrder? order text = read? text) ∧
    (Text.trim text.toList = text.toList →
      ((readAs? Layout.minutes.scan text.toList).isSome = true →
        read? (text ++ ":00") = read? text) ∧
      ((readAs? Layout.days.scan text.toList).isSome = true →
        read? (text ++ "T00:00") = read? text ∧
          read? (text ++ "T00:00:00") = read? text)) := by
  refine ⟨fun time => read?_eq_some_iff, isSome_read?_iff,
    fun written one other => layout_unique, ?_, ?_⟩
  · intro order every
    ext time
    rw [read?_eq_readInOrder?, readInOrder?_eq_some_iff every,
      readInOrder?_eq_some_iff Layout.mem_all]
  · intro trimmed
    refine ⟨fun reads => ?_, fun reads => ⟨?_, ?_⟩⟩
    · exact read?_append trimmed reads (by decide) (by decide) Spells.addSeconds
    · exact read?_append trimmed reads (by decide) (by decide) Spells.addMinutes
    · have adds {fields : Fields} (spelled : Spells .days text.toList fields) :
          Spells .seconds (text.toList ++ "T00:00:00".toList) fields := by
        simpa using spelled.addMinutes.addSeconds
      exact read?_append trimmed reads (by decide) (by decide) adds

/-- A leap second in a text with blanks, and a leap day in all layouts. -/
theorem leap_times_are_read :
    (∃ time layout fields, read? "\u00a02016-12 -31 T23: 59:60.1234567899 " = some time ∧
      Spells layout "2016-12 -31 T23: 59:60.1234567899".toList fields ∧ fields.Denote time ∧
      time.nano = 1123456789) ∧
    (∃ time, read? "2024-2-29" = some time ∧
      read? ("2024-2-29" ++ "T00:00") = some time ∧
      read? ("2024-2-29" ++ "T00:00:00") = some time ∧
      read? ("2024-2-29T 0:0" ++ ":00") = some time) ∧
    readInOrder? [.days, .minutes, .seconds] "2024-2-29" = read? "2024-2-29" := by
  have leapSecond : read? "\u00a02016-12 -31 T23: 59:60.1234567899 " =
      some ⟨17166, 86399, 1123456789, by decide, by decide, by decide, by decide⟩ := by
    decide +kernel
  have trimmed : Text.trim "\u00a02016-12 -31 T23: 59:60.1234567899 ".toList =
      "2016-12 -31 T23: 59:60.1234567899".toList := by decide +kernel
  have leapDay : read? "2024-2-29" =
      some ⟨19782, 0, 0, by decide, by decide, by decide, by decide⟩ := by decide +kernel
  have minute : read? "2024-2-29T 0:0" = read? "2024-2-29" := by decide +kernel
  obtain ⟨layout, fields, spelled, denote⟩ := ((reads_what_is_spelled _).1 _).mp leapSecond
  rw [trimmed] at spelled
  have longer := ((reads_what_is_spelled "2024-2-29").2.2.2.2 (by decide)).2 (by decide +kernel)
  have longerMinute :=
    ((reads_what_is_spelled "2024-2-29T 0:0").2.2.2.2 (by decide)).1 (by decide +kernel)
  refine ⟨⟨_, layout, fields, leapSecond, spelled, denote, rfl⟩, ⟨_, leapDay, ?_, ?_, ?_⟩, ?_⟩
  · exact longer.1.trans leapDay
  · exact longer.2.trans leapDay
  · exact (longerMinute.trans minute).trans leapDay
  · refine (reads_what_is_spelled "2024-2-29").2.2.2.1 _ fun layout => ?_
    cases layout <;> decide

end ElectionReadiness.CivilTime
