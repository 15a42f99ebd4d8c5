import ElectionReadiness.Differences.CommonLines
import ElectionReadiness.Proofs.Text.FullLines
import Mathlib.Data.List.Infix

/-!
# The lines that a search collects

The search for common lines goes in rounds, and of every round it keeps the equal lines along
one path.  Every path stands at some place of either text (`Path.Within`): this holds when the
search starts and is kept by sliding and by going on to the next round.  So whatever is kept of a
round are lines that stand together as a run in both texts (`exists_runs`).  That the runs of
all rounds are common to a text in this order is not said, and does not hold in general.

The search puts the lines together to a text, from which they are split off again.  As long as no
line of the texts is empty this comes to the lines themselves, with nothing but empty lines after
them (`split_commonText`).
-/

set_option autoImplicit false

namespace ElectionReadiness.Differences

/-! ## Runs -/

/-- Lines that stand together in both texts. -/
structure IsRun (first second lines : List Line) : Prop where
  inFirst : lines <:+: first
  inSecond : lines <:+: second

theorem isRun_nil (first second : List Line) : IsRun first second [] :=
  ⟨List.nil_infix, List.nil_infix⟩

namespace Path

/-- A path has come to some place of either text. -/
structure Within (first second : List Line) (path : Path) : Prop where
  inFirst : path.first <:+ first
  inSecond : path.second <:+ second

theorem prefix_equalLines (first second : List Line) :
    equalLines first second <+: first ∧ equalLines first second <+: second := by
  induction first generalizing second with
  | nil => exact ⟨List.nil_prefix, List.nil_prefix⟩
  | cons one ones ih =>
      cases second with
      | nil => exact ⟨List.nil_prefix, List.nil_prefix⟩
      | cons other others =>
          rw [equalLines]
          split
          · next same =>
            rw [← same]
            exact ⟨(List.prefix_cons_inj one).mpr (ih others).1,
              (List.prefix_cons_inj one).mpr (ih others).2⟩
          · exact ⟨List.nil_prefix, List.nil_prefix⟩

variable {first second : List Line} {path : Path}

theorem Within.takeFirst (within : path.Within first second) :
    path.takeFirst.Within first second :=
  ⟨(List.drop_suffix 1 path.first).trans within.inFirst, within.inSecond⟩

theorem Within.takeSecond (within : path.Within first second) :
    path.takeSecond.Within first second :=
  ⟨within.inFirst, (List.drop_suffix 1 path.second).trans within.inSecond⟩

/-- To slide is to go along a run. -/
theorem Within.slide (within : path.Within first second) :
    path.slide.1.Within first second ∧ IsRun first second path.slide.2 := by
  obtain ⟨inFirst, inSecond⟩ := prefix_equalLines path.first path.second
  refine ⟨⟨?_, ?_⟩, ⟨?_, ?_⟩⟩
  · exact (List.drop_suffix _ path.first).trans within.inFirst
  · exact (List.drop_suffix _ path.second).trans within.inSecond
  · exact inFirst.isInfix.trans within.inFirst.isInfix
  · exact inSecond.isInfix.trans within.inSecond.isInfix

end Path

/-! ## Rounds -/

variable {first second : List Line}

/-- A path of the next round goes on from one of the last. -/
theorem between_eq_some {below above : Option Path} {path : Path}
    (found : between below above = some path) :
    (∃ last, below = some last ∧ path = last.takeFirst) ∨
      ∃ last, above = some last ∧ path = last.takeSecond := by
  cases below with
  | none =>
      cases above with
      | none => cases found
      | some last => exact .inr ⟨last, rfl, (Option.some.inj found).symm⟩
  | some last =>
      cases above with
      | none => exact .inl ⟨last, rfl, (Option.some.inj found).symm⟩
      | some other =>
          rw [between] at found
          split at found
          · exact .inr ⟨other, rfl, (Option.some.inj found).symm⟩
          · exact .inl ⟨last, rfl, (Option.some.inj found).symm⟩

theorem exists_of_mem_nextPaths {paths : List Path} {path : Path} (mem : path ∈ nextPaths paths) :
    ∃ last ∈ paths, path = last.takeFirst ∨ path = last.takeSecond := by
  rw [nextPaths, ← List.map_uncurry_zip_eq_zipWith, List.filterMap_map, List.mem_filterMap] at mem
  obtain ⟨⟨below, above⟩, pair, found⟩ := mem
  obtain ⟨belowMem, aboveMem⟩ := List.of_mem_zip pair
  rcases between_eq_some found with ⟨last, rfl, taken⟩ | ⟨last, rfl, taken⟩
  · exact ⟨last, by simpa using belowMem, .inl taken⟩
  · exact ⟨last, by simpa using aboveMem, .inr taken⟩

theorem within_nextPaths {paths : List Path} (within : ∀ path ∈ paths, path.Within first second) :
    ∀ path ∈ nextPaths paths, path.Within first second := by
  intro path mem
  obtain ⟨last, lastMem, rfl | rfl⟩ := exists_of_mem_nextPaths mem
  · exact (within last lastMem).takeFirst
  · exact (within last lastMem).takeSecond

/-- What is kept of a round is a run, and its paths have come to some place of either text. -/
def RoundEnd.Within (first second : List Line) : RoundEnd → Prop
  | .done best => IsRun first second best.lines
  | .open best paths =>
    IsRun first second best.lines ∧ ∀ path ∈ paths, path.Within first second

theorem within_slideAll (best : Farthest) (run : IsRun first second best.lines) {paths : List Path}
    (within : ∀ path ∈ paths, path.Within first second) :
    (slideAll best paths).Within first second := by
  induction paths generalizing best with
  | nil => exact ⟨run, fun _ => nofun⟩
  | cons path others ih =>
      obtain ⟨pathWithin, othersWithin⟩ := List.forall_mem_cons.mp within
      obtain ⟨slidWithin, equal⟩ := pathWithin.slide
      have better : IsRun first second (best.update path.slide.1 path.slide.2).lines := by
        rw [Farthest.update]
        split
        · exact equal
        · exact run
      have later := ih _ better othersWithin
      by_cases done : path.slide.1.isDone = true
      · simp only [slideAll, done, if_true]
        exact better
      · simp only [slideAll, done, Bool.false_eq_true, if_false]
        cases ended : slideAll (best.update path.slide.1 path.slide.2) others with
        | done last =>
            rw [ended] at later
            exact later
        | «open» last slid =>
            rw [ended] at later
            exact ⟨later.1, List.forall_mem_cons.mpr ⟨slidWithin, later.2⟩⟩

/-! ## The whole search -/

/-- The lines that a search collects in so many rounds, none if they are not enough. -/
def collect? (paths : List Path) : Nat → Option (List Line)
  | 0 => none
  | rounds + 1 =>
    match slideAll ⟨0, []⟩ paths with
    | .done best => some best.lines
    | .open best slid => (collect? (nextPaths slid) rounds).map (best.lines ++ ·)

/-- The lines that are found to be common to two texts. -/
def commonLines (first second : List Line) : List Line :=
  (collect? [⟨0, first, second⟩] (first.length + second.length)).getD []

theorem exists_runs_of_collect? {paths : List Path} {rounds : Nat} {lines : List Line}
    (within : ∀ path ∈ paths, path.Within first second)
    (collected : collect? paths rounds = some lines) :
    ∃ runs : List (List Line), lines = runs.flatten ∧ ∀ run ∈ runs, IsRun first second run := by
  induction rounds generalizing paths lines with
  | zero => cases collected
  | succ rounds ih =>
      have round := within_slideAll ⟨0, []⟩ (isRun_nil first second) within
      rw [collect?] at collected
      cases ended : slideAll ⟨0, []⟩ paths with
      | done best =>
          rw [ended] at round collected
          obtain rfl := Option.some.inj collected
          exact ⟨[best.lines], (List.append_nil _).symm, List.forall_mem_singleton.mpr round⟩
      | «open» best slid =>
          rw [ended] at round collected
          obtain ⟨run, slidWithin⟩ := round
          obtain ⟨later, laterCollected, rfl⟩ := Option.map_eq_some_iff.mp collected
          obtain ⟨runs, rfl, each⟩ := ih (within_nextPaths slidWithin) laterCollected
          exact ⟨best.lines :: runs, rfl, List.forall_mem_cons.mpr ⟨run, each⟩⟩

/-- **What is found to be common are runs of both texts, one after the other.** -/
theorem exists_runs (first second : List Line) :
    ∃ runs : List (List Line), commonLines first second = runs.flatten ∧
      ∀ run ∈ runs, IsRun first second run := by
  have start : ∀ path ∈ [(⟨0, first, second⟩ : Path)], path.Within first second :=
    List.forall_mem_singleton.mpr ⟨List.suffix_rfl, List.suffix_rfl⟩
  rw [commonLines]
  cases collected : collect? [⟨0, first, second⟩] (first.length + second.length) with
  | none => exact ⟨[], rfl, fun _ => nofun⟩
  | some lines => exact exists_runs_of_collect? start collected

theorem commonLines_subset (first second : List Line) : commonLines first second ⊆ first := by
  obtain ⟨runs, parts, each⟩ := exists_runs first second
  rw [parts]
  intro line mem
  obtain ⟨run, among, inRun⟩ := List.mem_flatten.mp mem
  exact (each run among).inFirst.subset inRun

/-! ## Collected lines as a text -/

/-- Every line holds something, and none holds a line end. -/
def AreLines (lines : List Line) : Prop := ∀ line ∈ lines, line ≠ [] ∧ '\n' ∉ line

theorem AreLines.full {lines : List Line} (areLines : AreLines lines) :
    ∀ line ∈ lines, line ≠ [] := fun line mem => (areLines line mem).1

theorem AreLines.append {lines more : List Line} (areLines : AreLines lines)
    (others : AreLines more) : AreLines (lines ++ more) :=
  List.forall_mem_append.mpr ⟨areLines, others⟩

theorem AreLines.of_run {lines : List Line} (areLines : AreLines first)
    (run : IsRun first second lines) : AreLines lines :=
  fun line mem => areLines line (run.inFirst.subset mem)

theorem addLines_join {collected lines : List Line} (collectedFull : ∀ line ∈ collected, line ≠ [])
    (full : ∀ line ∈ lines, line ≠ []) :
    addLines (Text.join '\n' collected) lines = Text.join '\n' (collected ++ lines) := by
  simp only [addLines, List.isEmpty_iff, Text.join_eq_nil_iff full,
    Text.join_eq_nil_iff collectedFull]
  split
  · next none => rw [none, List.append_nil]
  · next some =>
    split
    · next none => rw [none, List.nil_append]
    · next already => rw [Text.join_append already some]

/-- A text of lines is split into the lines and nothing but empty ones. -/
theorem exists_blanks_of_join {lines : List Line} (areLines : AreLines lines) :
    ∃ blanks : List Line, (∀ line ∈ blanks, line = []) ∧
      Text.split '\n' (Text.join '\n' lines) = lines ++ blanks := by
  by_cases none : lines = []
  · subst none
    exact ⟨[[]], List.forall_mem_singleton.mpr rfl, rfl⟩
  · refine ⟨[], fun _ => nofun, ?_⟩
    rw [Text.split_join none fun line mem => (areLines line mem).2, List.append_nil]

theorem split_search {collected : List Line} (collectedLines : AreLines collected)
    (areLines : AreLines first) {paths : List Path}
    (within : ∀ path ∈ paths, path.Within first second) (rounds : Nat) :
    ∃ blanks : List Line, (∀ line ∈ blanks, line = []) ∧
      Text.split '\n' (search (Text.join '\n' collected) paths rounds) =
        (collect? paths rounds).elim [] (collected ++ ·) ++ blanks := by
  induction rounds generalizing collected paths with
  | zero => exact ⟨[[]], List.forall_mem_singleton.mpr rfl, rfl⟩
  | succ rounds ih =>
      have round := within_slideAll ⟨0, []⟩ (isRun_nil first second) within
      rw [search, collect?]
      cases ended : slideAll ⟨0, []⟩ paths with
      | done best =>
          rw [ended] at round
          have bestLines := areLines.of_run round
          simp only [List.isEmpty_iff, Text.join_eq_nil_iff bestLines.full, Option.elim_some]
          split
          · next none =>
            obtain ⟨blanks, empty, split⟩ := exists_blanks_of_join collectedLines
            refine ⟨blanks ++ [[]], ?_, ?_⟩
            · exact List.forall_mem_append.mpr ⟨empty, List.forall_mem_singleton.mpr rfl⟩
            · rw [Text.split_append_mark, split, none, List.append_nil, List.append_assoc]
              rfl
          · rw [addLines_join collectedLines.full bestLines.full]
            exact exists_blanks_of_join (collectedLines.append bestLines)
      | «open» best slid =>
          rw [ended] at round
          obtain ⟨run, slidWithin⟩ := round
          have bestLines := areLines.of_run run
          obtain ⟨blanks, empty, split⟩ :=
            ih (collectedLines.append bestLines) (within_nextPaths slidWithin)
          refine ⟨blanks, empty, ?_⟩
          simp only [addLines_join collectedLines.full bestLines.full, split]
          cases collect? (nextPaths slid) rounds with
          | none => rfl
          | some lines => simp only [Option.map_some, Option.elim_some, List.append_assoc]

/-- **The text of common lines is split into these lines and nothing but empty ones.** -/
theorem split_commonText (areLines : AreLines first) (second : List Line) :
    ∃ blanks : List Line, (∀ line ∈ blanks, line = []) ∧
      Text.split '\n' (commonText first second) = commonLines first second ++ blanks := by
  have start : ∀ path ∈ [(⟨0, first, second⟩ : Path)], path.Within first second :=
    List.forall_mem_singleton.mpr ⟨List.suffix_rfl, List.suffix_rfl⟩
  have nothing : AreLines [] := fun _ => nofun
  obtain ⟨blanks, empty, split⟩ :=
    split_search nothing areLines start (first.length + second.length)
  refine ⟨blanks, empty, ?_⟩
  rw [commonText, ← show Text.join '\n' [] = [] from rfl, split, commonLines]
  cases collect? [⟨0, first, second⟩] (first.length + second.length) <;> rfl

end ElectionReadiness.Differences
