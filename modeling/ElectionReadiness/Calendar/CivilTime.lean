import ElectionReadiness.Calendar.Date

/-!
# Civil times

A civil time is a day, a second of that day and a part of that second, with no
offset from universal time.  The part of a second runs on past a thousand
million nanoseconds inside a leap second, so that a leap second sorts after the
second it extends and before the next.  The same type serves for universal
times, whose local reading is another civil time some seconds earlier or later.

`CivilTime.key` puts civil times on the integer line: the order is the order of
the keys, and equal keys belong to equal times (`CivilTime.key_injective`).
-/

set_option autoImplicit false

namespace ElectionReadiness

/-- A time of a day of the calendar, in the range of years that times may have. -/
structure CivilTime where
  /-- The day number. -/
  day : Int
  /-- Whole seconds of the day. -/
  second : Nat
  /-- Nanoseconds, a thousand million and more within a leap second. -/
  nano : Nat
  day_ge : Date.firstDay ≤ day
  day_le : day ≤ Date.lastDay
  second_lt : second < 86400
  nano_lt : nano < 2000000000
  deriving DecidableEq

namespace CivilTime

/-- The time with these parts, if they are in range. -/
def ofParts? (day : Int) (second nano : Nat) : Option CivilTime :=
  if h : Date.firstDay ≤ day ∧ day ≤ Date.lastDay ∧ second < 86400 ∧ nano < 2000000000 then
    some ⟨day, second, nano, h.1, h.2.1, h.2.2.1, h.2.2.2⟩
  else none

/-- Whole seconds from the start of 1 January 1970; a leap second counts as the
second it extends. -/
def wholeSeconds (time : CivilTime) : Int := 86400 * time.day + time.second

/-- The time on the integer line. -/
def key (time : CivilTime) : Int := 2000000000 * time.wholeSeconds + time.nano

instance : LT CivilTime := ⟨fun earlier later => earlier.key < later.key⟩

instance : DecidableRel (fun earlier later : CivilTime => earlier < later) :=
  fun earlier later => inferInstanceAs (Decidable (earlier.key < later.key))

/-- The time some seconds later, with its part of a second unchanged; none
outside the range of years. -/
def shift (time : CivilTime) (seconds : Int) : Option CivilTime :=
  let moved := time.wholeSeconds + seconds
  ofParts? (moved / 86400) (moved % 86400).toNat time.nano

/-! ## The order -/

theorem lt_iff_key_lt {earlier later : CivilTime} : earlier < later ↔ earlier.key < later.key :=
  Iff.rfl

/-- A time is known from its place on the integer line. -/
theorem key_injective {one other : CivilTime} (h : one.key = other.key) : one = other := by
  obtain ⟨day, second, nano, _, _, second_lt, nano_lt⟩ := one
  obtain ⟨day', second', nano', _, _, second_lt', nano_lt'⟩ := other
  simp only [key, wholeSeconds] at h
  have same_day : day = day' := by omega
  have same_second : second = second' := by omega
  have same_nano : nano = nano' := by omega
  subst same_day same_second same_nano
  rfl

/-- A time is found again from its own parts. -/
theorem ofParts?_parts (time : CivilTime) :
    ofParts? time.day time.second time.nano = some time := by
  simp [ofParts?, time.day_ge, time.day_le, time.second_lt, time.nano_lt]

end CivilTime

end ElectionReadiness
