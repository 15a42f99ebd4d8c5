import ElectionReadiness.Text.Split

/-!
# The lines of a text that hold something

`Text.split` and `Text.join` are the library's splitting and joining of lists, so that parts
without marks are found again in the text they are put together to (`split_join`).  Of the parts
between line ends those that hold something are the *full lines* of a text.  A text is *lined* if
all its lines are full and it has no other controls than the line ends; it may be continued by
another such text, on the same line or on the next (`IsLined.append`, `IsLined.newLine`).
-/

set_option autoImplicit false

namespace ElectionReadiness.Text

variable {mark : Char}

/-! ## Parts -/

theorem split_eq_splitOn (mark : Char) (text : List Char) :
    split mark text = text.splitOn mark := by
  induction text with
  | nil => rfl
  | cons c rest ih =>
      rw [split, List.splitOn_cons_eq_if_modifyHead, ← ih]
      by_cases same : c = mark
      · rw [if_pos same, if_pos (beq_iff_eq.mpr same)]
      · rw [if_neg same, if_neg (mt beq_iff_eq.mp same)]
        cases parts : split mark rest with
        | nil => exact absurd parts (split_ne_nil mark rest)
        | cons first others => rfl

theorem join_eq_intercalate (mark : Char) (parts : List (List Char)) :
    join mark parts = [mark].intercalate parts := by
  induction parts with
  | nil => rfl
  | cons first others ih =>
      cases others with
      | nil => exact List.intercalate_singleton.symm
      | cons second others =>
          rw [join, ih, List.intercalate_cons_cons, List.append_assoc, List.singleton_append]

/-- A mark between two texts is a mark between their parts. -/
theorem split_append_mark (text more : List Char) :
    split mark (text ++ mark :: more) = split mark text ++ split mark more := by
  simp only [split_eq_splitOn, List.splitOn_append_cons_self]

theorem split_of_notMem {text : List Char} (free : mark ∉ text) : split mark text = [text] := by
  rw [split_eq_splitOn]
  exact List.splitOn_eq_singleton free

/-- A text without marks belongs to the first part of what it stands before. -/
theorem split_append_of_notMem {text more first : List Char} {others : List (List Char)}
    (free : mark ∉ text) (parts : split mark more = first :: others) :
    split mark (text ++ more) = (text ++ first) :: others := by
  induction text with
  | nil => exact parts
  | cons c rest ih =>
      rw [List.mem_cons, not_or] at free
      rw [List.cons_append, split, if_neg (Ne.symm free.1), ih free.2]
      rfl

/-- Parts without marks are the parts of the text they are put together to. -/
theorem split_join {parts : List (List Char)} (nonempty : parts ≠ [])
    (free : ∀ part ∈ parts, mark ∉ part) : split mark (join mark parts) = parts := by
  rw [split_eq_splitOn, join_eq_intercalate, List.splitOn_intercalate mark free nonempty]

/-- Parts are put together to nothing only if they hold nothing. -/
theorem join_eq_nil_iff {parts : List (List Char)} (full : ∀ part ∈ parts, part ≠ []) :
    join mark parts = [] ↔ parts = [] := by
  cases parts with
  | nil => exact iff_of_true rfl rfl
  | cons first others =>
      have something : first ≠ [] := full first List.mem_cons_self
      refine iff_of_false ?_ (List.cons_ne_nil first others)
      cases others with
      | nil => exact something
      | cons second others =>
          exact fun nothing => List.cons_ne_nil _ _ (List.append_eq_nil_iff.mp nothing).2

theorem join_append {parts more : List (List Char)} (nonempty : parts ≠ []) (further : more ≠ []) :
    join mark (parts ++ more) = join mark parts ++ mark :: join mark more := by
  induction parts with
  | nil => exact absurd rfl nonempty
  | cons first others ih =>
      cases others with
      | nil =>
          cases more with
          | nil => exact absurd rfl further
          | cons second others => rfl
      | cons second others =>
          rw [List.cons_append, List.cons_append, join, ← List.cons_append,
            ih (List.cons_ne_nil second others), join, List.append_assoc, List.cons_append]

theorem notMem_join {c : Char} (different : c ≠ mark) {parts : List (List Char)}
    (free : ∀ part ∈ parts, c ∉ part) : c ∉ join mark parts := by
  induction parts with
  | nil => exact List.not_mem_nil
  | cons first others ih =>
      obtain ⟨firstFree, othersFree⟩ := List.forall_mem_cons.mp free
      cases others with
      | nil => exact firstFree
      | cons second others =>
          rw [join, List.mem_append, List.mem_cons, not_or, not_or]
          exact ⟨firstFree, different, ih othersFree⟩

theorem mem_join_of_mem {c : Char} {part : List Char} {parts : List (List Char)}
    (among : part ∈ parts) (mem : c ∈ part) : c ∈ join mark parts := by
  induction parts with
  | nil => cases among
  | cons first others ih =>
      cases others with
      | nil => rwa [List.mem_singleton.mp among] at mem
      | cons second others =>
          rw [join, List.mem_append, List.mem_cons]
          rcases List.mem_cons.mp among with rfl | among
          · exact .inl mem
          · exact .inr (.inr (ih among))

/-- What a part holds the text holds. -/
theorem mem_of_mem_split {c : Char} {text part : List Char} (among : part ∈ split mark text)
    (mem : c ∈ part) : c ∈ text := by
  rw [← join_split mark text]
  exact mem_join_of_mem among mem

/-! ## Full lines -/

/-- The lines that hold something. -/
def full (lines : List (List Char)) : List (List Char) := lines.filter fun line => !line.isEmpty

/-- The lines of a text that hold something. -/
def fullLines (text : List Char) : List (List Char) := full (split '\n' text)

theorem full_eq_self {lines : List (List Char)} (each : ∀ line ∈ lines, line ≠ []) :
    full lines = lines :=
  List.filter_eq_self.mpr fun line mem => by simpa using each line mem

theorem fullLines_append (text more : List Char) :
    fullLines (text ++ '\n' :: more) = fullLines text ++ fullLines more := by
  rw [fullLines, split_append_mark, full, List.filter_append, fullLines, full, fullLines, full]

/-- Every line of a text holds something. -/
def AllFull (text : List Char) : Prop := ∀ line ∈ split '\n' text, line ≠ []

theorem AllFull.of_line {line : List Char} (something : line ≠ []) (free : '\n' ∉ line) :
    AllFull line := by
  rw [AllFull, split_of_notMem free]
  exact List.forall_mem_singleton.mpr something

/-- Full lines may be followed by full lines. -/
theorem AllFull.newLine {text more : List Char} (full : AllFull text) (others : AllFull more) :
    AllFull (text ++ '\n' :: more) := by
  rw [AllFull, split_append_mark]
  exact List.forall_mem_append.mpr ⟨full, others⟩

/-- A line may go on before full lines. -/
theorem AllFull.before {line text : List Char} (free : '\n' ∉ line) (full : AllFull text) :
    AllFull (line ++ text) := by
  rw [AllFull] at full
  cases parts : split '\n' text with
  | nil => exact absurd parts (split_ne_nil '\n' text)
  | cons first others =>
      rw [parts] at full
      obtain ⟨something, later⟩ := List.forall_mem_cons.mp full
      rw [AllFull, split_append_of_notMem free parts]
      exact List.forall_mem_cons.mpr ⟨List.append_ne_nil_of_right_ne_nil line something, later⟩

/-- Full lines may go on with full lines. -/
theorem AllFull.append {text more : List Char} (full : AllFull text) (others : AllFull more) :
    AllFull (text ++ more) := by
  -- By induction on the lines of the first text: its last line is the one that goes on.
  rw [← join_split '\n' text]
  have free : ∀ line ∈ split '\n' text, '\n' ∉ line := fun line => not_mem_of_mem_split
  unfold AllFull at full
  generalize split '\n' text = lines at full free ⊢
  induction lines with
  | nil => exact others
  | cons first later ih =>
      obtain ⟨firstFree, laterFree⟩ := List.forall_mem_cons.mp free
      obtain ⟨something, laterFull⟩ := List.forall_mem_cons.mp full
      cases later with
      | nil => exact others.before firstFree
      | cons second later =>
          rw [join, List.append_assoc, List.cons_append]
          exact (AllFull.of_line something firstFree).newLine (ih laterFull laterFree)

/-! ## Lined texts -/

/-- A text of full lines, without other controls than the line ends. -/
structure IsLined (text : List Char) : Prop where
  full : AllFull text
  visible : ∀ c ∈ text, c ≠ '\n' → 0x20 ≤ c.toNat

namespace IsLined

theorem of_line {line : List Char} (something : line ≠ []) (visible : ∀ c ∈ line, 0x20 ≤ c.toNat) :
    IsLined line where
  full := .of_line something fun mem => absurd (visible _ mem) (by decide)
  visible := fun c mem _ => visible c mem

theorem append {text more : List Char} (lined : IsLined text) (others : IsLined more) :
    IsLined (text ++ more) where
  full := lined.full.append others.full
  visible := List.forall_mem_append.mpr ⟨lined.visible, others.visible⟩

/-- A new line may follow, with blanks before what stands in it. -/
theorem newLine {text more blanks : List Char} (lined : IsLined text)
    (blank : ∀ c ∈ blanks, c = ' ') (others : IsLined more) :
    IsLined (text ++ '\n' :: (blanks ++ more)) where
  full := lined.full.newLine (others.full.before fun mem => absurd (blank _ mem) (by decide))
  visible := by
    refine List.forall_mem_append.mpr ⟨lined.visible, List.forall_mem_cons.mpr ⟨nofun, ?_⟩⟩
    refine List.forall_mem_append.mpr ⟨?_, others.visible⟩
    intro c mem _
    rw [blank c mem]
    decide

end IsLined

end ElectionReadiness.Text
