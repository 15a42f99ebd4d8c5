import ElectionReadiness.Calendar.CivilTime
import Mathlib.Data.Int.Order.Basic
import Mathlib.Order.Defs.LinearOrder

/-!
# The order of civil times

Civil times are ordered by their place on the integer line, which orders them by whole
seconds first and by the part of the second then (`CivilTime.lt_iff`).  A shift moves the
whole seconds and keeps the part (`CivilTime.shift_eq_some_iff`), so two times that are
shifted keep their order as soon as their whole seconds do.
-/

set_option autoImplicit false

namespace ElectionReadiness.CivilTime

/-! ## A linear order -/

instance : LE CivilTime := ⟨fun earlier later => earlier.key ≤ later.key⟩

theorem le_iff_key_le {earlier later : CivilTime} :
    earlier ≤ later ↔ earlier.key ≤ later.key := Iff.rfl

instance : LinearOrder CivilTime where
  le_refl time := Int.le_refl _
  le_trans _ _ _ := Int.le_trans
  lt_iff_le_not_ge _ _ := lt_iff_le_not_ge (α := Int)
  le_antisymm _ _ forth back := key_injective (Int.le_antisymm forth back)
  le_total _ _ := Int.le_total ..
  toDecidableLE := fun earlier later => inferInstanceAs (Decidable (earlier.key ≤ later.key))
  toDecidableEq := inferInstance
  toDecidableLT := fun earlier later => inferInstanceAs (Decidable (earlier.key < later.key))

/-- A time is earlier if its whole seconds are, or the part of the same second is. -/
theorem lt_iff {earlier later : CivilTime} :
    earlier < later ↔ earlier.wholeSeconds < later.wholeSeconds ∨
      earlier.wholeSeconds = later.wholeSeconds ∧ earlier.nano < later.nano := by
  have := earlier.nano_lt
  have := later.nano_lt
  simp only [lt_iff_key_lt, key]
  omega

theorem wholeSeconds_le_of_le {earlier later : CivilTime} (order : earlier ≤ later) :
    earlier.wholeSeconds ≤ later.wholeSeconds := by
  have := earlier.nano_lt
  have := later.nano_lt
  simp only [le_iff_key_le, key] at order
  omega

/-! ## Shifts -/

theorem ofParts?_eq_some_iff {day : Int} {second nano : Nat} {time : CivilTime} :
    ofParts? day second nano = some time ↔
      time.day = day ∧ time.second = second ∧ time.nano = nano := by
  constructor
  · intro made
    unfold ofParts? at made
    split at made
    · cases made
      exact ⟨rfl, rfl, rfl⟩
    · cases made
  · rintro ⟨rfl, rfl, rfl⟩
    exact ofParts?_parts time

/-- A shift moves the whole seconds and keeps the part of the second. -/
theorem shift_eq_some_iff {time moved : CivilTime} {seconds : Int} :
    time.shift seconds = some moved ↔
      moved.wholeSeconds = time.wholeSeconds + seconds ∧ moved.nano = time.nano := by
  simp only [shift, ofParts?_eq_some_iff]
  have := moved.second_lt
  simp only [wholeSeconds]
  omega

end ElectionReadiness.CivilTime
