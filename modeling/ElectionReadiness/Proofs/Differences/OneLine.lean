import ElectionReadiness.Proofs.Differences.CollectedLines

/-!
# Texts that differ in one line

If a text is like another but for one line, which is changed, missing or added, the search finds
all other lines (`commonLines_of_changed`, `commonLines_of_missing`, `commonLines_of_added`), and
so what it finds is common to both texts (`commonLines_sublist_of_differInOneLine`).

It takes three rounds at most.  The first path comes to the line in question.  The paths after it
leave the line out in one of the texts, and may go astray as far as the lines after it are equal
to lines before them; but the path that ends the search goes on from the one that has come
farthest, whose lines were kept.  With two changed lines this may already fail.
-/

set_option autoImplicit false

namespace ElectionReadiness.Differences

/-- Two texts are alike but for one line: it is changed, or only one of them has it. -/
def DifferInOneLine (first second : List Line) : Prop :=
  ∃ (before after : List Line) (one other : Option Line),
    first = before ++ (one.toList ++ after) ∧ second = before ++ (other.toList ++ after)

/-! ## Equal lines -/

namespace Path

theorem equalLines_self (lines : List Line) : equalLines lines lines = lines := by
  induction lines with
  | nil => rfl
  | cons line later ih => rw [equalLines, if_pos rfl, ih]

theorem equalLines_comm (first second : List Line) :
    equalLines first second = equalLines second first := by
  induction first generalizing second with
  | nil => cases second <;> rfl
  | cons one ones ih =>
      cases second with
      | nil => rfl
      | cons other others =>
          rw [equalLines, equalLines, ih]
          by_cases same : one = other
          · rw [if_pos same, if_pos same.symm, same]
          · rw [if_neg same, if_neg (Ne.symm same)]

theorem equalLines_append (before first second : List Line) :
    equalLines (before ++ first) (before ++ second) = before ++ equalLines first second := by
  induction before with
  | nil => rfl
  | cons line before ih =>
      rw [List.cons_append, List.cons_append, equalLines, if_pos rfl, ih, List.cons_append]

theorem slide_append (reached : Nat) (before : List Line) {first second : List Line}
    (differ : equalLines first second = []) :
    slide ⟨reached, before ++ first, before ++ second⟩ =
      (⟨reached + before.length, first, second⟩, before) := by
  simp only [slide, equalLines_append, differ, List.append_nil, List.drop_left]

theorem slide_self (reached : Nat) (lines : List Line) :
    slide ⟨reached, lines, lines⟩ = (⟨reached + lines.length, [], []⟩, lines) := by
  simp only [slide, equalLines_self, List.drop_length]

/-- A path does not come to the end of both texts if one is longer. -/
theorem not_isDone_slide (path : Path) (uneven : path.first.length ≠ path.second.length) :
    path.slide.1.isDone = false := by
  obtain ⟨inFirst, inSecond⟩ := prefix_equalLines path.first path.second
  have notMore := inFirst.length_le
  have notMoreEither := inSecond.length_le
  simp only [slide, isDone, Bool.and_eq_false_iff, List.isEmpty_eq_false_iff,
    ne_eq, List.drop_eq_nil_iff]
  omega

/-- A path that runs out of the second text first does not come to the end of the first. -/
theorem reached_slide_lt (path : Path) (longer : path.second.length < path.first.length) :
    path.slide.1.reached < path.reached + path.first.length := by
  have equal := (prefix_equalLines path.first path.second).2.length_le
  simp only [slide]
  omega

end Path

/-! ## Rounds -/

/-- What is kept of a round so far is what was kept of its first path. -/
theorem update_start (path : Path) :
    Farthest.update ⟨0, []⟩ path.slide.1 path.slide.2 = ⟨path.slide.1.reached, path.slide.2⟩ := by
  rw [Farthest.update]
  split
  · rfl
  · next none =>
    have nothing : path.slide.1.reached = 0 := Nat.eq_zero_of_not_pos none
    have noLines : path.slide.2 = [] :=
      List.length_eq_zero_iff.mp (Nat.add_eq_zero_iff.mp nothing).2
    rw [nothing, noLines]

/-- A round ends the search at a path that comes to the end of both texts, and keeps the lines of
this path if the paths before it have not come so far. -/
theorem slideAll_eq_done {best : Farthest} {earlier : List Path} {path : Path}
    (ends : path.slide.1.isDone = true) (farther : best.reached < path.slide.1.reached)
    (unfinished : ∀ other ∈ earlier, other.slide.1.isDone = false)
    (behind : ∀ other ∈ earlier, other.slide.1.reached < path.slide.1.reached)
    (later : List Path) :
    slideAll best (earlier ++ path :: later) = .done ⟨path.slide.1.reached, path.slide.2⟩ := by
  induction earlier generalizing best with
  | nil => simp only [List.nil_append, slideAll, ends, if_true, Farthest.update, farther]
  | cons other earlier ih =>
      obtain ⟨otherOpen, earlierOpen⟩ := List.forall_mem_cons.mp unfinished
      obtain ⟨otherBehind, earlierBehind⟩ := List.forall_mem_cons.mp behind
      have better : (best.update other.slide.1 other.slide.2).reached < path.slide.1.reached := by
        rw [Farthest.update]
        split
        · exact otherBehind
        · exact farther
      simp only [List.cons_append, slideAll, otherOpen, Bool.false_eq_true, if_false,
        ih better earlierOpen earlierBehind]

/-- The first round goes along the equal lines at the front of both texts, and the second leaves
out the line after them in one text or the other. -/
theorem collect?_before (before : List Line) {first second : List Line}
    (differ : Path.equalLines first second = []) (left : first ≠ [] ∨ second ≠ [])
    (rounds : Nat) :
    collect? [⟨0, before ++ first, before ++ second⟩] (rounds + 1) =
      (collect? [⟨before.length, first, second.drop 1⟩, ⟨before.length + 1, first.drop 1, second⟩]
        rounds).map (before ++ ·) := by
  have slid : Path.slide ⟨0, before ++ first, before ++ second⟩ =
      (⟨before.length, first, second⟩, before) := by
    rw [Path.slide_append 0 before differ, Nat.zero_add]
  have unfinished : (⟨before.length, first, second⟩ : Path).isDone = false := by
    simpa [Path.isDone, imp_iff_not_or] using left
  have kept := update_start ⟨0, before ++ first, before ++ second⟩
  rw [slid] at kept
  simp only [collect?, slideAll, slid, unfinished, Bool.false_eq_true, if_false, kept]
  rfl

/-- The search ends at a path before which equal lines are left, and collects these lines, if the
paths before it cannot come to the end of the first text. -/
theorem collect?_end {earlier : List Path} {reached : Nat} {lines : List Line}
    (started : 0 < reached + lines.length)
    (longer : ∀ other ∈ earlier, other.second.length < other.first.length)
    (bounded : ∀ other ∈ earlier, other.reached + other.first.length ≤ reached + lines.length)
    (later : List Path) (rounds : Nat) :
    collect? (earlier ++ ⟨reached, lines, lines⟩ :: later) (rounds + 1) = some lines := by
  have slid := Path.slide_self reached lines
  have unfinished : ∀ other ∈ earlier, other.slide.1.isDone = false :=
    fun other mem => other.not_isDone_slide (Nat.ne_of_gt (longer other mem))
  have behind : ∀ other ∈ earlier, other.slide.1.reached < reached + lines.length :=
    fun other mem => (other.reached_slide_lt (longer other mem)).trans_le (bounded other mem)
  have ended : slideAll ⟨0, []⟩ (earlier ++ ⟨reached, lines, lines⟩ :: later) =
      .done ⟨reached + lines.length, lines⟩ := by
    rw [slideAll_eq_done (by rw [slid]; rfl) (by rwa [slid]) unfinished (by rwa [slid]), slid]
  rw [collect?, ended]

theorem commonLines_eq {first second lines : List Line} {enough : Nat}
    (collected : ∀ rounds, collect? [⟨0, first, second⟩] (rounds + enough) = some lines)
    (allowed : enough ≤ first.length + second.length) : commonLines first second = lines := by
  obtain ⟨rounds, total⟩ := Nat.exists_eq_add_of_le' allowed
  rw [commonLines, total, collected, Option.getD_some]

/-! ## Texts with a line more or less -/

/-- The line that one text has more than another may be taken to come after all equal lines. -/
theorem exists_last_equal (before : List Line) (line : Line) (after : List Line) :
    ∃ front last back, before ++ line :: after = front ++ last :: back ∧
      before ++ after = front ++ back ∧ Path.equalLines (last :: back) back = [] := by
  induction after generalizing before line with
  | nil => exact ⟨before, line, [], rfl, rfl, rfl⟩
  | cons next after ih =>
      by_cases same : line = next
      · subst same
        obtain ⟨front, last, back, longer, shorter, differ⟩ := ih (before ++ [line]) line
        rw [List.append_assoc, List.singleton_append] at longer shorter
        exact ⟨front, last, back, longer, shorter, differ⟩
      · exact ⟨before, line, next :: after, rfl, rfl, by rw [Path.equalLines, if_neg same]⟩

/-- A line that only the first text has is left out. -/
theorem commonLines_of_missing (before : List Line) (line : Line) (after : List Line) :
    commonLines (before ++ line :: after) (before ++ after) = before ++ after := by
  obtain ⟨front, last, back, longer, shorter, differ⟩ := exists_last_equal before line after
  rw [longer, shorter]
  by_cases nothing : front = [] ∧ back = []
  · obtain ⟨rfl, rfl⟩ := nothing
    rfl
  have something : front.length ≠ 0 ∨ back.length ≠ 0 := by
    simpa [imp_iff_not_or] using nothing
  have collected (rounds : Nat) :
      collect? [⟨0, front ++ last :: back, front ++ back⟩] (rounds + 2) = some (front ++ back) := by
    have ended : collect? ([⟨front.length, last :: back, back.drop 1⟩] ++
        [⟨front.length + 1, back, back⟩]) (rounds + 1) = some back := by
      refine collect?_end ?_ (List.forall_mem_singleton.mpr ?_) (List.forall_mem_singleton.mpr ?_)
        [] rounds
      · omega
      · simp only [List.length_drop, List.length_cons]
        omega
      · simp only [List.length_cons]
        omega
    rw [collect?_before front differ (.inl (List.cons_ne_nil last back))]
    exact congrArg (Option.map (front ++ ·)) ended
  refine commonLines_eq collected ?_
  simp only [List.length_append, List.length_cons]
  omega

/-- A line that only the second text has is left out. -/
theorem commonLines_of_added (before : List Line) (line : Line) (after : List Line) :
    commonLines (before ++ after) (before ++ line :: after) = before ++ after := by
  obtain ⟨front, last, back, longer, shorter, differ⟩ := exists_last_equal before line after
  rw [Path.equalLines_comm] at differ
  rw [longer, shorter]
  by_cases nothing : front = [] ∧ back = []
  · obtain ⟨rfl, rfl⟩ := nothing
    rfl
  have something : front.length ≠ 0 ∨ back.length ≠ 0 := by
    simpa [imp_iff_not_or] using nothing
  have collected (rounds : Nat) :
      collect? [⟨0, front ++ back, front ++ last :: back⟩] (rounds + 2) = some (front ++ back) := by
    have ended : collect? ([] ++ ⟨front.length, back, back⟩ ::
        [⟨front.length + 1, back.drop 1, last :: back⟩]) (rounds + 1) = some back :=
      collect?_end (by omega) (List.forall_mem_nil _) (List.forall_mem_nil _) _ rounds
    rw [collect?_before front differ (.inr (List.cons_ne_nil last back))]
    exact congrArg (Option.map (front ++ ·)) ended
  refine commonLines_eq collected ?_
  simp only [List.length_append, List.length_cons]
  omega

/-! ## Texts with a changed line -/

/-- In a round of two paths the one between them goes on from the path whose lines are kept. -/
theorem exists_between {below above : Path} (belowOpen : below.slide.1.isDone = false)
    (aboveOpen : above.slide.1.isDone = false) :
    ∃ kept middle, (∀ rounds, collect? [below, above] (rounds + 1) =
        (collect? [below.slide.1.takeSecond, middle, above.slide.1.takeFirst] rounds).map
          (kept ++ ·)) ∧
      ((kept = above.slide.2 ∧ middle = above.slide.1.takeSecond) ∨
        (kept = below.slide.2 ∧ middle = below.slide.1.takeFirst)) := by
  have round (rounds : Nat) : collect? [below, above] (rounds + 1) =
      (collect? (nextPaths [below.slide.1, above.slide.1]) rounds).map
        ((Farthest.update ⟨below.slide.1.reached, below.slide.2⟩ above.slide.1
          above.slide.2).lines ++ ·) := by
    simp only [collect?, slideAll, belowOpen, aboveOpen, Bool.false_eq_true, if_false, update_start]
  simp only [round]
  by_cases farther : below.slide.1.reached < above.slide.1.reached
  · refine ⟨_, above.slide.1.takeSecond, fun rounds => ?_, .inl ⟨rfl, rfl⟩⟩
    simp only [Farthest.update, nextPaths, between, farther, if_true, List.map_cons, List.map_nil,
      List.cons_append, List.nil_append, List.zipWith, List.filterMap_cons, List.filterMap_nil, id]
  · refine ⟨_, below.slide.1.takeFirst, fun rounds => ?_, .inr ⟨rfl, rfl⟩⟩
    simp only [Farthest.update, nextPaths, between, farther, if_false, List.map_cons, List.map_nil,
      List.cons_append, List.nil_append, List.zipWith, List.filterMap_cons, List.filterMap_nil, id]

/-- After a line that is left out in one text or the other, all equal lines are found in two
rounds. -/
theorem collect?_changed (reached : Nat) (one other : Line) (after : List Line) (rounds : Nat) :
    collect? [⟨reached, one :: after, after⟩, ⟨reached + 1, after, other :: after⟩] (rounds + 2) =
      some after := by
  let below : Path := ⟨reached, one :: after, after⟩
  let above : Path := ⟨reached + 1, after, other :: after⟩
  obtain ⟨kept, middle, round, goesOn⟩ := exists_between
    (below.not_isDone_slide (Nat.succ_ne_self after.length))
    (above.not_isDone_slide (Nat.succ_ne_self after.length).symm)
  have isPrefix : kept <+: after := by
    rcases goesOn with ⟨rfl, _⟩ | ⟨rfl, _⟩
    · exact (Path.prefix_equalLines after (other :: after)).1
    · exact (Path.prefix_equalLines (one :: after) after).2
  have middle_eq :
      middle = ⟨reached + 1 + kept.length, after.drop kept.length, after.drop kept.length⟩ := by
    rcases goesOn with ⟨rfl, rfl⟩ | ⟨rfl, rfl⟩
    · simp only [above, Path.slide, Path.takeSecond, List.drop_drop, List.drop_succ_cons]
    · simp only [below, Path.slide, Path.takeFirst, List.drop_drop, List.drop_succ_cons,
        Nat.add_right_comm]
  have ended : collect? [below.slide.1.takeSecond, middle, above.slide.1.takeFirst] (rounds + 1) =
      some (after.drop kept.length) := by
    have equal := (Path.prefix_equalLines (one :: after) after).2.length_le
    have among := isPrefix.length_le
    rw [middle_eq]
    refine collect?_end ?_ (List.forall_mem_singleton.mpr ?_) (List.forall_mem_singleton.mpr ?_)
      [above.slide.1.takeFirst] rounds
    · rw [List.length_drop]
      omega
    · simp only [below, Path.slide, Path.takeSecond, List.length_drop, List.length_cons]
      omega
    · simp only [below, Path.slide, Path.takeSecond, List.length_drop, List.length_cons]
      omega
  calc collect? [below, above] (rounds + 2)
    _ = (some (after.drop kept.length)).map (kept ++ ·) := by rw [round, ended]
    _ = some after := congrArg some (List.prefix_iff_eq_append.mp isPrefix)

/-- A line that was changed is left out in both texts. -/
theorem commonLines_of_changed (before : List Line) {one other : Line} (changed : one ≠ other)
    (after : List Line) :
    commonLines (before ++ one :: after) (before ++ other :: after) = before ++ after := by
  have differ : Path.equalLines (one :: after) (other :: after) = [] := by
    rw [Path.equalLines, if_neg changed]
  have start := collect?_before before differ (.inl (List.cons_ne_nil one after))
  by_cases nothing : before = [] ∧ after = []
  · -- Two lines in all are too few for the third round, but then no lines are left to be found.
    obtain ⟨rfl, rfl⟩ := nothing
    exact congrArg (Option.getD · []) (start 1)
  have something : before.length ≠ 0 ∨ after.length ≠ 0 := by
    simpa [imp_iff_not_or] using nothing
  have collected (rounds : Nat) :
      collect? [⟨0, before ++ one :: after, before ++ other :: after⟩] (rounds + 3) =
        some (before ++ after) := by
    have later := collect?_changed before.length one other after rounds
    exact (start (rounds + 2)).trans (congrArg (Option.map (before ++ ·)) later)
  refine commonLines_eq collected ?_
  simp only [List.length_append, List.length_cons]
  omega

/-- **What is found in texts that differ in one line is common to both.** -/
theorem commonLines_sublist_of_differInOneLine {first second : List Line} (differ : first ≠ second)
    (inOneLine : DifferInOneLine first second) :
    (commonLines first second).Sublist first ∧ (commonLines first second).Sublist second := by
  obtain ⟨before, after, one, other, rfl, rfl⟩ := inOneLine
  have leftOut (line : Line) : (before ++ after).Sublist (before ++ line :: after) :=
    (List.sublist_cons_self line after).append_left before
  cases one with
  | none =>
      cases other with
      | none => exact absurd rfl differ
      | some line =>
          have found : commonLines (before ++ ([] ++ after)) (before ++ ([line] ++ after)) =
              before ++ after := commonLines_of_added before line after
          rw [Option.toList_none, Option.toList_some, found]
          exact ⟨List.Sublist.refl _, leftOut line⟩
  | some line =>
      cases other with
      | none =>
          have found : commonLines (before ++ ([line] ++ after)) (before ++ ([] ++ after)) =
              before ++ after := commonLines_of_missing before line after
          rw [Option.toList_none, Option.toList_some, found]
          exact ⟨leftOut line, List.Sublist.refl _⟩
      | some changed =>
          have unlike : line ≠ changed := fun same => differ (by rw [same])
          have found : commonLines (before ++ ([line] ++ after)) (before ++ ([changed] ++ after)) =
              before ++ after := commonLines_of_changed before unlike after
          rw [Option.toList_some, Option.toList_some, found]
          exact ⟨leftOut line, leftOut changed⟩

/-- Two changed lines can be too many: what is found stands the other way round in one text. -/
example :
    let first : List Line := [['0'], ['0'], ['1']]
    let second : List Line := [['1'], ['0'], ['2']]
    ¬(commonLines first second).Sublist second := by decide

end ElectionReadiness.Differences
