import ElectionReadiness.Proofs.Differences.CollectedLines
import ElectionReadiness.Proofs.Differences.Merged

/-!
# What differences show of both texts

Differences are *faithful* if the lines without colour and those in red are the lines of the first
text, and the lines without colour and those in green are the lines of the second.  The lines
without colour are those that were found to be common (`keptLines_plain`).  No line of a text is
missing or out of place, but common lines may come after it once more (`exists_again_red`,
`exists_again_green`).  They do not exactly if the common lines are common to both texts in their
order (`areFaithful_iff`), which is not so for all texts.
-/

set_option autoImplicit false

namespace ElectionReadiness.Differences

open Text (full fullLines IsLined)

/-- The lines of a text. -/
def linesOf (text : String) : List Line := Text.split '\n' text.toList

theorem linesOf_inj {text other : String} : linesOf text = linesOf other ↔ text = other := by
  constructor
  · intro same
    have together := congrArg (Text.join '\n') same
    rw [linesOf, linesOf, Text.join_split, Text.join_split] at together
    exact String.toList_inj.mp together
  · rintro rfl
    rfl

/-- Printed differences show the lines of both texts, and no others. -/
structure AreFaithful (first second printed : String) : Prop where
  /-- Without colour and in red stands the first text. -/
  first : keptLines [.red] printed = linesOf first
  /-- Without colour and in green stands the second text. -/
  second : keptLines [.green] printed = linesOf second

/-! ## Lined texts -/

theorem areLines_linesOf {text : String} (lined : IsLined text.toList) : AreLines (linesOf text) :=
  fun line mem => ⟨lined.full line mem, Text.not_mem_of_mem_split mem⟩

theorem showable_linesOf {text : String} (lined : IsLined text.toList) :
    AreShowable (linesOf text) := by
  intro line mem
  refine ⟨Text.not_mem_of_mem_split mem, fun escape => ?_⟩
  exact absurd (lined.visible _ (Text.mem_of_mem_split mem escape) (by decide)) (by decide)

theorem full_blanks {blanks : List Line} (empty : ∀ line ∈ blanks, line = []) :
    full blanks = [] :=
  List.filter_eq_nil_iff.mpr fun line mem => by simp [empty line mem]

/-- What is laid along a text of lines comes after it as far as it is not common to it. -/
theorem exists_again {text common blanks : List Line} (areLines : AreLines text)
    (commonFull : ∀ line ∈ common, line ≠ []) (empty : ∀ line ∈ blanks, line = []) :
    ∃ again, again <:+ common ∧ full (along text (common ++ blanks)) = text ++ again ∧
      (again = [] ↔ common.Sublist text) := by
  have foreign : ∀ line ∈ blanks, line ∉ text :=
    fun line mem among => areLines.full line among (empty line mem)
  obtain ⟨found, again, parts, among, laid⟩ := exists_along text (common ++ blanks)
  have commonParts : common = full found ++ full again := by
    rw [← full_append, ← parts, full_append, Text.full_eq_self commonFull, full_blanks empty,
      List.append_nil]
  refine ⟨full again, ⟨full found, commonParts.symm⟩, ?_, ?_, ?_⟩
  · rw [laid, full_append, Text.full_eq_self areLines.full]
  · intro nothing
    rw [commonParts, nothing, List.append_nil]
    exact List.filter_sublist.trans among
  · intro all
    rw [along_of_sublist all foreign] at laid
    rw [← List.append_cancel_left laid, full_blanks empty]

section Shown

variable {first second : String} (firstLined : IsLined first.toList)
  (secondLined : IsLined second.toList)
include firstLined

theorem areLines_commonLines : AreLines (commonLines (linesOf first) (linesOf second)) :=
  fun line mem => areLines_linesOf firstLined line (commonLines_subset _ _ mem)

/-- The text of common lines has the common lines, and else only empty ones. -/
theorem fullLines_commonText :
    fullLines (commonText (linesOf first) (linesOf second)) =
      commonLines (linesOf first) (linesOf second) := by
  obtain ⟨blanks, empty, split⟩ :=
    split_commonText (areLines_linesOf firstLined) (linesOf second)
  rw [fullLines, split, full_append, full_blanks empty, List.append_nil,
    Text.full_eq_self (areLines_commonLines firstLined).full]

include secondLined

/-- What is kept of the differences are both texts with the common lines laid along them. -/
theorem exists_keptLines_text :
    ∃ blanks : List Line, (∀ line ∈ blanks, line = []) ∧ ∀ colours,
      keptLines colours (text first second) =
        full (woven colours (linesOf first) (linesOf second)
          (commonLines (linesOf first) (linesOf second) ++ blanks)) := by
  obtain ⟨blanks, empty, split⟩ :=
    split_commonText (areLines_linesOf firstLined) (linesOf second)
  refine ⟨blanks, empty, fun colours => ?_⟩
  have firstShowable := showable_linesOf firstLined
  have commonShowable : AreShowable (commonLines (linesOf first) (linesOf second) ++ blanks) :=
    (firstShowable.of_subset (commonLines_subset _ _)).append
      fun line mem => by simp [empty line mem]
  have nothing : AreShowable [] := fun _ => nofun
  have showable := showable_merge nothing firstShowable (showable_linesOf secondLined)
    commonShowable
  rw [keptLines, text, String.toList_ofList, changes, ← linesOf, ← linesOf, split,
    fullLines_keptText colours showable, kept_merge, List.nil_append]

/-- **The lines without colour are the common ones.** -/
theorem keptLines_plain :
    keptLines [] (text first second) = commonLines (linesOf first) (linesOf second) := by
  obtain ⟨blanks, empty, kept⟩ := exists_keptLines_text firstLined secondLined
  rw [kept, woven_plain, full_append, full_blanks empty, List.append_nil,
    Text.full_eq_self (areLines_commonLines firstLined).full]

/-- **The first text stands in red and without colour,** and after it common lines, unless these
are all common to it. -/
theorem exists_again_red :
    ∃ again, again <:+ keptLines [] (text first second) ∧
      keptLines [.red] (text first second) = linesOf first ++ again ∧
      (again = [] ↔ (keptLines [] (text first second)).Sublist (linesOf first)) := by
  rw [keptLines_plain firstLined secondLined]
  obtain ⟨blanks, empty, kept⟩ := exists_keptLines_text firstLined secondLined
  rw [kept, woven_red]
  exact exists_again (areLines_linesOf firstLined) (areLines_commonLines firstLined).full empty

/-- **The second text stands in green and without colour,** and after it common lines, unless
these are all common to it. -/
theorem exists_again_green :
    ∃ again, again <:+ keptLines [] (text first second) ∧
      keptLines [.green] (text first second) = linesOf second ++ again ∧
      (again = [] ↔ (keptLines [] (text first second)).Sublist (linesOf second)) := by
  rw [keptLines_plain firstLined secondLined]
  obtain ⟨blanks, empty, kept⟩ := exists_keptLines_text firstLined secondLined
  rw [kept, woven_green]
  exact exists_again (areLines_linesOf secondLined) (areLines_commonLines firstLined).full empty

/-- **Differences are faithful exactly if the lines without colour are common to both texts in
their order.** -/
theorem areFaithful_iff :
    AreFaithful first second (text first second) ↔
      (keptLines [] (text first second)).Sublist (linesOf first) ∧
        (keptLines [] (text first second)).Sublist (linesOf second) := by
  obtain ⟨red, _, redKept, redNone⟩ := exists_again_red firstLined secondLined
  obtain ⟨green, _, greenKept, greenNone⟩ := exists_again_green firstLined secondLined
  rw [← redNone, ← greenNone]
  constructor
  · rintro ⟨inFirst, inSecond⟩
    rw [redKept] at inFirst
    rw [greenKept] at inSecond
    exact ⟨List.append_right_eq_self.mp inFirst, List.append_right_eq_self.mp inSecond⟩
  · rintro ⟨rfl, rfl⟩
    exact ⟨redKept.trans (List.append_nil _), greenKept.trans (List.append_nil _)⟩

end Shown

end ElectionReadiness.Differences
