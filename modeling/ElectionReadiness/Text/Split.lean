/-!
# Splitting at a mark

A text is split at every occurrence of a mark, so that there is always one part
more than there are marks, and `join` puts the parts together again
(`join_split`).
-/

set_option autoImplicit false

namespace ElectionReadiness.Text

/-- The parts of a text between its marks. -/
def split (mark : Char) : List Char → List (List Char)
  | [] => [[]]
  | c :: rest =>
    if c = mark then [] :: split mark rest
    else
      match split mark rest with
      | [] => [[c]]
      | first :: others => (c :: first) :: others

/-- Puts a mark between parts. -/
def join (mark : Char) : List (List Char) → List Char
  | [] => []
  | [only] => only
  | first :: second :: others => first ++ mark :: join mark (second :: others)

/-! ## Splitting and joining -/

theorem split_ne_nil (mark : Char) (text : List Char) : split mark text ≠ [] := by
  cases text with
  | nil => simp [split]
  | cons c rest =>
    simp only [split]
    split
    · simp
    · split <;> simp

/-- Nothing is lost by splitting. -/
theorem join_split (mark : Char) (text : List Char) : join mark (split mark text) = text := by
  induction text with
  | nil => rfl
  | cons c rest ih =>
    simp only [split]
    split
    · next same =>
      cases parts : split mark rest with
      | nil => exact absurd parts (split_ne_nil mark rest)
      | cons first others => rw [← ih, parts, same]; rfl
    · cases parts : split mark rest with
      | nil => exact absurd parts (split_ne_nil mark rest)
      | cons first others =>
        rw [← ih, parts]
        cases others <;> rfl

/-- No part holds a mark. -/
theorem not_mem_of_mem_split {mark : Char} {text part : List Char} (h : part ∈ split mark text) :
    mark ∉ part := by
  induction text generalizing part with
  | nil =>
    simp only [split, List.mem_singleton] at h
    simp [h]
  | cons c rest ih =>
    simp only [split] at h
    split at h
    · rcases List.mem_cons.mp h with rfl | h
      · simp
      · exact ih h
    · next different =>
      split at h
      · simp only [List.mem_singleton] at h
        simp [h, Ne.symm different]
      · next first others parts =>
        rcases List.mem_cons.mp h with rfl | h
        · have free := ih (parts ▸ List.mem_cons_self ..)
          simp [Ne.symm different, free]
        · exact ih (parts ▸ List.mem_cons_of_mem _ h)

end ElectionReadiness.Text
