import ElectionReadiness.Proofs.Differences.Screen

/-!
# Going through common lines

Changes are made by going through the common lines and taking from both texts what stands before
the next of them.  What is kept of the changes is both texts with the common lines laid along them
(`kept_merge`): in red it is the first text with these lines (`woven_red`), in green the second.

Laying lines along a text loses nothing of it and puts nothing into it: the lines that are found
are taken where they stand, and from the first that is not found all of them come after the
text (`exists_along`).  Lines that are common to the text are all found, however often they
stand in it (`along_of_sublist`), for the next one is always taken where it comes first.
-/

set_option autoImplicit false

namespace ElectionReadiness.Differences

open Text (full)

/-! ## Lines laid along a text -/

/-- A text with lines laid along it, each where it is found next; a line that is not found comes
after the whole text. -/
def along (text : List Line) : List Line → List Line
  | [] => text
  | line :: later => (splitAt line text).1 ++ line :: along (splitAt line text).2 later

/-- A text is not split before the line comes. -/
theorem splitAt_before {line : Line} {before : List Line} (absent : line ∉ before)
    (rest : List Line) :
    splitAt line (before ++ rest) = (before ++ (splitAt line rest).1, (splitAt line rest).2) := by
  have others : ∀ other ∈ before, (other != line) = true := by
    intro other mem
    rw [bne_iff_ne]
    rintro rfl
    exact absent mem
  rw [splitAt, List.takeWhile_append_of_pos others, List.dropWhile_append_of_pos others, splitAt]

theorem splitAt_of_notMem {line : Line} {text : List Line} (absent : line ∉ text) :
    splitAt line text = (text, []) := by
  have split := splitAt_before absent []
  rwa [List.append_nil, show splitAt line [] = ([], []) from rfl, List.append_nil] at split

theorem splitAt_append {line : Line} {before : List Line} (absent : line ∉ before)
    (after : List Line) : splitAt line (before ++ line :: after) = (before, after) := by
  rw [splitAt_before absent, splitAt]
  simp

/-- After the end of a text lines stand as they are. -/
theorem along_nil (lines : List Line) : along [] lines = lines := by
  induction lines with
  | nil => rfl
  | cons line later ih =>
      rw [along, splitAt_of_notMem List.not_mem_nil, ih]
      rfl

/-- **Lines laid along a text are found in it up to one of them, and the rest comes after it.** -/
theorem exists_along (text lines : List Line) :
    ∃ found again, lines = found ++ again ∧ found.Sublist text ∧
      along text lines = text ++ again := by
  induction lines generalizing text with
  | nil => exact ⟨[], [], rfl, List.nil_sublist text, (List.append_nil text).symm⟩
  | cons line later ih =>
      by_cases present : line ∈ text
      · obtain ⟨before, after, rfl, absent⟩ := List.eq_append_cons_of_mem present
        obtain ⟨found, again, rfl, among, laid⟩ := ih after
        refine ⟨line :: found, again, rfl, ?_, ?_⟩
        · exact (among.cons_cons line).trans (List.sublist_append_right before (line :: after))
        · rw [along, splitAt_append absent, laid, List.append_assoc]
          rfl
      · refine ⟨[], line :: later, rfl, List.nil_sublist text, ?_⟩
        rw [along, splitAt_of_notMem present, along_nil]

/-- What is common to a text goes on after the place where its first line is found first. -/
theorem sublist_of_cons_sublist {line : Line} {later before after : List Line}
    (absent : line ∉ before) (among : (line :: later).Sublist (before ++ line :: after)) :
    later.Sublist after := by
  induction before with
  | nil => exact List.cons_sublist_cons.mp among
  | cons other before ih =>
      rw [List.mem_cons, not_or] at absent
      cases among with
      | cons _ among => exact ih absent.2 among
      | cons_cons _ _ => exact absurd rfl absent.1

/-- **Lines that are common to a text are all found in it,** and what is laid along after them
stands after the text if it is not in it. -/
theorem along_of_sublist {text lines : List Line} (among : lines.Sublist text) {more : List Line}
    (foreign : ∀ line ∈ more, line ∉ text) : along text (lines ++ more) = text ++ more := by
  induction lines generalizing text with
  | nil =>
      cases more with
      | nil => exact (List.append_nil text).symm
      | cons line later =>
          have absent : line ∉ text := foreign line List.mem_cons_self
          rw [List.nil_append, along, splitAt_of_notMem absent, along_nil]
  | cons line later ih =>
      have present : line ∈ text := among.subset List.mem_cons_self
      obtain ⟨before, after, rfl, absent⟩ := List.eq_append_cons_of_mem present
      have rest : ∀ other ∈ more, other ∉ after := by
        intro other mem inAfter
        exact foreign other mem (List.mem_append_right before (List.mem_cons_of_mem line inAfter))
      rw [List.cons_append, along, splitAt_append absent,
        ih (sublist_of_cons_sublist absent among) rest, List.append_assoc]
      rfl

/-! ## What is kept of merged changes -/

section Kept

variable (colours : List Colour)

/-- Lines in a colour, if it is looked at. -/
def inColour (colour : Colour) (lines : List Line) : List Line :=
  if colour ∈ colours then lines else []

/-- Both texts with common lines laid along them at once. -/
def woven (first second : List Line) : List Line → List Line
  | [] => inColour colours .red first ++ inColour colours .green second
  | line :: later =>
    inColour colours .red (splitAt line first).1 ++ inColour colours .green (splitAt line second).1
      ++ line :: woven (splitAt line first).2 (splitAt line second).2 later

theorem full_append (lines more : List Line) : full (lines ++ more) = full lines ++ full more :=
  List.filter_append lines more

theorem inColour_nil (colour : Colour) : inColour colours colour [] = [] := ite_self []

theorem full_inColour (colour : Colour) (lines : List Line) :
    full (inColour colours colour lines) = inColour colours colour (full lines) := by
  unfold inColour
  split <;> rfl

theorem lineText_isEmpty (lines : List Line) :
    (lineText lines).isEmpty = true ↔ full lines = [] := by
  rw [List.isEmpty_iff]
  induction lines with
  | nil => exact iff_of_true rfl rfl
  | cons line later ih =>
      cases line with
      | nil => exact ih
      | cons c rest =>
          have nonempty : lineText ((c :: rest) :: later) ≠ [] := by
            rw [lineText_eq_join]
            cases later <;> exact List.cons_ne_nil c _
          exact iff_of_false nonempty (List.cons_ne_nil _ _)

/-- A change without text would show nothing. -/
theorem kept_unlessEmpty {change : List Line → Change} (lines : List Line)
    (holds : (change lines).lines = lines) :
    (unlessEmpty change lines).flatMap (Change.kept colours) = (change lines).kept colours := by
  rw [unlessEmpty]
  split
  · next empty =>
    rw [lineText_isEmpty] at empty
    rw [Change.kept, holds, empty]
    cases (change lines).colour? <;> simp
  · exact List.append_nil _

theorem kept_merge (held first second common : List Line) :
    (merge held first second common).flatMap (Change.kept colours) =
      full (held ++ woven colours first second common) := by
  have red (lines : List Line) : (unlessEmpty .removed lines).flatMap (Change.kept colours) =
      inColour colours .red (full lines) := kept_unlessEmpty colours lines rfl
  have green (lines : List Line) : (unlessEmpty .added lines).flatMap (Change.kept colours) =
      inColour colours .green (full lines) := kept_unlessEmpty colours lines rfl
  have plain (lines : List Line) : (unlessEmpty .same lines).flatMap (Change.kept colours) =
      full lines := kept_unlessEmpty colours lines rfl
  induction common generalizing held first second with
  | nil =>
      rw [merge, List.flatMap_append, List.flatMap_append, plain, red, green, woven]
      simp only [full_append, full_inColour, List.append_assoc]
  | cons line later ih =>
      have next (rest : List Line) : full (line :: rest) = full [line] ++ full rest :=
        full_append [line] rest
      simp only [merge, woven]
      split
      · next empty =>
        simp only [Bool.and_eq_true, lineText_isEmpty] at empty
        rw [ih]
        simp only [full_append, full_inColour, empty, inColour_nil, next (woven _ _ _ _),
          List.nil_append, List.append_assoc]
      · rw [List.flatMap_cons, List.flatMap_append, List.flatMap_append, red, green, ih]
        simp only [full_append, full_inColour, next (woven _ _ _ _), List.append_assoc]
        rfl

end Kept

theorem woven_red (first second lines : List Line) :
    woven [.red] first second lines = along first lines := by
  induction lines generalizing first second with
  | nil => exact List.append_nil first
  | cons line later ih =>
      rw [woven, ih, along]
      exact congrArg (· ++ _) (List.append_nil _)

theorem woven_green (first second lines : List Line) :
    woven [.green] first second lines = along second lines := by
  induction lines generalizing first second with
  | nil => rfl
  | cons line later ih =>
      rw [woven, ih, along]
      rfl

theorem woven_plain (first second lines : List Line) : woven [] first second lines = lines := by
  induction lines generalizing first second with
  | nil => rfl
  | cons line later ih =>
      rw [woven, ih]
      rfl

/-! ## What is kept of differences -/

theorem AreShowable.append {lines more : List Line} (showable : AreShowable lines)
    (others : AreShowable more) : AreShowable (lines ++ more) :=
  List.forall_mem_append.mpr ⟨showable, others⟩

theorem AreShowable.of_subset {lines few : List Line} (showable : AreShowable lines)
    (among : few ⊆ lines) : AreShowable few := fun line mem => showable line (among mem)

/-- Merging makes changes of the lines it is given. -/
theorem showable_merge {held first second common : List Line} (heldShowable : AreShowable held)
    (firstShowable : AreShowable first) (secondShowable : AreShowable second)
    (commonShowable : AreShowable common) :
    ∀ change ∈ merge held first second common, AreShowable change.lines := by
  have kept {change : List Line → Change} {lines : List Line} (showable : AreShowable lines)
      (holds : (change lines).lines = lines) :
      ∀ made ∈ unlessEmpty change lines, AreShowable made.lines := by
    intro made mem
    rw [unlessEmpty] at mem
    split at mem
    · cases mem
    · rw [List.mem_singleton.mp mem, holds]
      exact showable
  have before {line : Line} {text : List Line} : (splitAt line text).1 ⊆ text :=
    (List.takeWhile_sublist _).subset
  have after {line : Line} {text : List Line} : (splitAt line text).2 ⊆ text :=
    ((List.drop_sublist 1 _).trans (List.dropWhile_sublist _)).subset
  induction common generalizing held first second with
  | nil =>
      rw [merge]
      exact List.forall_mem_append.mpr ⟨List.forall_mem_append.mpr
        ⟨kept heldShowable rfl, kept firstShowable rfl⟩, kept secondShowable rfl⟩
  | cons line later ih =>
      obtain ⟨lineShowable, laterShowable⟩ := List.forall_mem_cons.mp commonShowable
      have single : AreShowable [line] := List.forall_mem_singleton.mpr lineShowable
      simp only [merge]
      split
      · exact ih (heldShowable.append single) (firstShowable.of_subset after)
          (secondShowable.of_subset after) laterShowable
      · refine List.forall_mem_cons.mpr ⟨heldShowable, ?_⟩
        refine List.forall_mem_append.mpr ⟨List.forall_mem_append.mpr ⟨?_, ?_⟩, ?_⟩
        · exact kept (firstShowable.of_subset before) rfl
        · exact kept (secondShowable.of_subset before) rfl
        · exact ih single (firstShowable.of_subset after) (secondShowable.of_subset after)
            laterShowable

end ElectionReadiness.Differences
