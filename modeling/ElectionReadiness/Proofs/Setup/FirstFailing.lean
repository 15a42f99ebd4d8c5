import ElectionReadiness.Setup.Assessment
import ElectionReadiness.Setup.Edit
import Mathlib.Order.Bounds.Basic
import Mathlib.Tactic.TFAE

/-!
# The active stage is the first that fails

An assessment goes through the stages in order and builds up what is complete while it
goes.  What it finds can be said without the going: the active stage is the least whose
own check fails, with the genesis as the least of all if none does; the complete stages
are those below it; and the shortfall is what the check of the active stage gives.

The stages of any list either all pass, or the list splits at the first that fails
(`Assessment.passes_or_splits`), and in both cases the assessment can be written down
(`Assessment.ofChecks_of_passes`, `Assessment.ofChecks_of_splits`).  Of the checked stages
the part before the split is known from the stage alone (`Stage.mem_before_split_iff`).
`Setup.assess_finds_first_failing` puts this together.
-/

set_option autoImplicit false

namespace ElectionReadiness

/-! ## Where a list of checks stops -/

namespace Assessment

/-- If every check passes, every stage is complete and nothing falls short. -/
theorem ofChecks_of_passes {check : Stage → Except Shortfall Unit} {stages : List Stage}
    (passes : ∀ stage ∈ stages, check stage = .ok ()) :
    ofChecks check stages = ⟨⟨.genesis, stages⟩, none⟩ := by
  induction stages with
  | nil => rfl
  | cons stage later ih =>
      have here := passes stage (List.mem_cons_self ..)
      have rest := ih fun other mem => passes other (List.mem_cons_of_mem _ mem)
      simp only [ofChecks, here, rest, Assessment.after]

/-- The first check that fails decides: the stages before it are complete, whatever
comes after it. -/
theorem ofChecks_of_splits {check : Stage → Except Shortfall Unit} {before after : List Stage}
    {stage : Stage} {shortfall : Shortfall}
    (passes : ∀ earlier ∈ before, check earlier = .ok ())
    (fails : check stage = .error shortfall) :
    ofChecks check (before ++ stage :: after) = ⟨⟨stage, before⟩, some shortfall⟩ := by
  induction before with
  | nil => simp only [List.nil_append, ofChecks, fails]
  | cons first others ih =>
      have here := passes first (List.mem_cons_self ..)
      have rest := ih fun other mem => passes other (List.mem_cons_of_mem _ mem)
      simp only [List.cons_append, ofChecks, here, rest, Assessment.after]

/-- Either all stages of a list pass, or it splits at the first that fails. -/
theorem passes_or_splits (check : Stage → Except Shortfall Unit) (stages : List Stage) :
    (∀ stage ∈ stages, check stage = .ok ()) ∨
      ∃ before stage after shortfall, stages = before ++ stage :: after ∧
        (∀ earlier ∈ before, check earlier = .ok ()) ∧ check stage = .error shortfall := by
  induction stages with
  | nil => exact .inl fun stage mem => absurd mem List.not_mem_nil
  | cons first others ih =>
      cases outcome : check first with
      | error shortfall =>
          exact .inr ⟨[], first, others, shortfall, rfl,
            fun earlier mem => absurd mem List.not_mem_nil, outcome⟩
      | ok =>
          rcases ih with passes | ⟨before, stage, after, shortfall, split, passes, fails⟩
          · refine .inl fun stage mem => ?_
            rcases List.mem_cons.mp mem with rfl | mem
            · exact outcome
            · exact passes stage mem
          · refine .inr ⟨first :: before, stage, after, shortfall, by rw [split]; rfl, ?_, fails⟩
            intro earlier mem
            rcases List.mem_cons.mp mem with rfl | mem
            · exact outcome
            · exact passes earlier mem

end Assessment

/-! ## Splitting the checked stages -/

namespace Stage

theorem checked_pairwise_lt : checked.Pairwise (· < ·) := by decide

/-- Where the checked stages split, the stages below stand before. -/
theorem mem_before_split_iff {before after : List Stage} {stage other : Stage}
    (split : checked = before ++ stage :: after) : other ∈ before ↔ other < stage := by
  have ordered := checked_pairwise_lt
  rw [split, List.pairwise_append, List.pairwise_cons] at ordered
  constructor
  · intro mem
    exact ordered.2.2 other mem stage (List.mem_cons_self ..)
  · intro below
    have bounded : stage < genesis :=
      mem_checked_iff.mp (split ▸ List.mem_append_right _ (List.mem_cons_self ..))
    have mem : other ∈ before ++ stage :: after :=
      split ▸ mem_checked_iff.mpr (Nat.lt_trans below bounded)
    rcases List.mem_append.mp mem with mem | mem
    · exact mem
    · rcases List.mem_cons.mp mem with rfl | mem
      · exact absurd below (Nat.lt_irrefl _)
      · exact absurd (Nat.lt_trans below (ordered.2.1.1 other mem)) (Nat.lt_irrefl _)

end Stage

/-! ## What an assessment finds -/

namespace Setup

variable {Instant : Type} [LT Instant] [DecidableLT Instant]

/-- An assessment goes through to the end, or stops where the checked stages split at the
first that fails. -/
theorem assess_ends_or_stops (setup : Setup) (requirements : Requirements)
    (calendar : Calendar Instant) :
    ((∀ stage, setup.check requirements calendar stage = .ok ()) ∧
        setup.assess requirements calendar = ⟨⟨.genesis, Stage.checked⟩, none⟩) ∨
      ∃ before stage after shortfall, Stage.checked = before ++ stage :: after ∧
        (∀ earlier < stage, setup.check requirements calendar earlier = .ok ()) ∧
        setup.check requirements calendar stage = .error shortfall ∧
        setup.assess requirements calendar = ⟨⟨stage, before⟩, some shortfall⟩ := by
  rcases Assessment.passes_or_splits (setup.check requirements calendar) Stage.checked with
    passes | ⟨before, stage, after, shortfall, split, passes, fails⟩
  · refine .inl ⟨fun stage => ?_, Assessment.ofChecks_of_passes passes⟩
    cases stage with
    | genesis => rfl
    | _ => exact passes _ (by decide)
  · refine .inr ⟨before, stage, after, shortfall, split, ?_, fails, ?_⟩
    · intro earlier below
      exact passes earlier ((Stage.mem_before_split_iff split).mpr below)
    · rw [assess, split]
      exact Assessment.ofChecks_of_splits passes fails

/-- A stage at which the checked stages split is not the genesis. -/
theorem lt_genesis_of_split {before after : List Stage} {stage : Stage}
    (split : Stage.checked = before ++ stage :: after) : stage < .genesis :=
  Stage.mem_checked_iff.mp (split ▸ List.mem_append_right _ (List.mem_cons_self ..))

section

variable (setup : Setup) (requirements : Requirements) (calendar : Calendar Instant)

/-- The active stage is the least whose own check fails, or else the genesis. -/
theorem active_isLeast :
    IsLeast {stage | stage = .genesis ∨ setup.check requirements calendar stage ≠ .ok ()}
      (setup.assess requirements calendar).progress.active := by
  rcases setup.assess_ends_or_stops requirements calendar with
    ⟨passes, found⟩ | ⟨before, stage, after, shortfall, split, passes, fails, found⟩
  · rw [found]
    refine ⟨.inl rfl, ?_⟩
    rintro stage (rfl | bad)
    · exact Nat.le_refl _
    · exact absurd (passes stage) bad
  · rw [found]
    refine ⟨.inr (by simp [fails]), ?_⟩
    rintro other (rfl | bad)
    · exact Nat.le_of_lt (lt_genesis_of_split split)
    · by_contra below
      exact bad (passes other (Nat.lt_of_not_le below))

/-- The complete stages are in order. -/
theorem completed_pairwise_lt :
    (setup.assess requirements calendar).progress.completed.Pairwise (· < ·) := by
  have ordered := Stage.checked_pairwise_lt
  rcases setup.assess_ends_or_stops requirements calendar with
    ⟨_, found⟩ | ⟨before, stage, after, _, split, _, _, found⟩
  · rw [found]
    exact ordered
  · rw [split] at ordered
    rw [found]
    exact (List.pairwise_append.mp ordered).1

/-- The complete stages are those below the active one. -/
theorem mem_completed_iff {stage : Stage} :
    stage ∈ (setup.assess requirements calendar).progress.completed ↔
      stage < (setup.assess requirements calendar).progress.active := by
  rcases setup.assess_ends_or_stops requirements calendar with
    ⟨_, found⟩ | ⟨before, stopped, after, _, split, _, _, found⟩
  · rw [found]
    exact Stage.mem_checked_iff
  · rw [found]
    exact Stage.mem_before_split_iff split

/-- A stage below the genesis is complete exactly if its check and all before it pass. -/
theorem mem_completed_iff_passes {stage : Stage} :
    stage ∈ (setup.assess requirements calendar).progress.completed ↔
      stage < .genesis ∧
        ∀ earlier ≤ stage, setup.check requirements calendar earlier = .ok () := by
  rw [mem_completed_iff]
  rcases setup.assess_ends_or_stops requirements calendar with
    ⟨passes, found⟩ | ⟨_, stopped, _, _, split, passes, fails, found⟩
  · rw [found]
    exact ⟨fun below => ⟨below, fun earlier _ => passes earlier⟩, fun complete => complete.1⟩
  · rw [found]
    constructor
    · intro below
      refine ⟨Nat.lt_trans below (lt_genesis_of_split split), fun earlier atMost => ?_⟩
      exact passes earlier (Nat.lt_of_le_of_lt atMost below)
    · rintro ⟨_, complete⟩
      by_contra reached
      have passed := complete stopped (Nat.le_of_not_lt reached)
      rw [fails] at passed
      cases passed

/-- Nothing falls short, the setup is ready, and all checks pass: each means the others. -/
theorem ready_tfae :
    [(setup.assess requirements calendar).shortfall? = none,
      (setup.assess requirements calendar).progress.isReady = true,
      ∀ stage < .genesis, setup.check requirements calendar stage = .ok ()].TFAE := by
  rcases setup.assess_ends_or_stops requirements calendar with
    ⟨passes, found⟩ | ⟨before, stage, after, shortfall, split, _, fails, found⟩
  · rw [found]
    tfae_have 1 → 2 := fun _ => rfl
    tfae_have 2 → 3 := fun _ stage _ => passes stage
    tfae_have 3 → 1 := fun _ => rfl
    tfae_finish
  · have below := lt_genesis_of_split split
    rw [found]
    tfae_have 1 → 2 := fun absent => nomatch absent
    tfae_have 2 → 3 := by
      intro ready
      rw [Progress.isReady, beq_iff_eq] at ready
      exact absurd below (ready ▸ Nat.lt_irrefl _)
    tfae_have 3 → 1 := fun all => absurd (all stage below) (by simp [fails])
    tfae_finish

/-- The shortfall is the one that the check of the active stage gives. -/
theorem check_active :
    setup.check requirements calendar (setup.assess requirements calendar).progress.active =
      (match (setup.assess requirements calendar).shortfall? with
      | none => .ok ()
      | some shortfall => .error shortfall) := by
  rcases setup.assess_ends_or_stops requirements calendar with
    ⟨passes, found⟩ | ⟨_, _, _, _, _, _, fails, found⟩
  · rw [found]
    exact passes .genesis
  · rw [found]
    exact fails

end

/-- A stage that is reached and fails gives the shortfall. -/
theorem shortfall?_of_check_eq_error {setup : Setup} {requirements : Requirements}
    {calendar : Calendar Instant} {stage : Stage} {shortfall : Shortfall}
    (reached : stage ≤ (setup.assess requirements calendar).progress.active)
    (fails : setup.check requirements calendar stage = .error shortfall) :
    (setup.assess requirements calendar).shortfall? = some shortfall := by
  have least : (setup.assess requirements calendar).progress.active ≤ stage :=
    (setup.active_isLeast requirements calendar).2 (.inr (by simp [fails]))
  have here : stage = (setup.assess requirements calendar).progress.active :=
    Stage.rank_injective (Nat.le_antisymm reached least)
  have outcome := setup.check_active requirements calendar
  rw [← here, fails] at outcome
  cases found : (setup.assess requirements calendar).shortfall? with
  | none =>
      rw [found] at outcome
      cases outcome
  | some other =>
      rw [found] at outcome
      cases outcome
      rfl

/-! ## Two assessments -/

section

variable {Other : Type} [LT Other] [DecidableLT Other] {setup other : Setup}
  {requirements otherRequirements : Requirements} {calendar : Calendar Instant}
  {otherCalendar : Calendar Other}

/-- What the checks give up to the active stage decides the whole assessment. -/
theorem assess_eq_of_agree
    (agree : ∀ stage ≤ (setup.assess requirements calendar).progress.active,
      other.check otherRequirements otherCalendar stage =
        setup.check requirements calendar stage) :
    other.assess otherRequirements otherCalendar = setup.assess requirements calendar := by
  rcases setup.assess_ends_or_stops requirements calendar with
    ⟨passes, found⟩ | ⟨before, stage, after, shortfall, split, passes, fails, found⟩
  · rw [found] at agree ⊢
    refine Assessment.ofChecks_of_passes fun stage mem => ?_
    rw [agree stage (Nat.le_of_lt (Stage.mem_checked_iff.mp mem)), passes stage]
  · rw [found] at agree ⊢
    rw [assess, split]
    refine Assessment.ofChecks_of_splits (fun earlier mem => ?_) ?_
    · have below := (Stage.mem_before_split_iff split).mp mem
      rw [agree earlier (Nat.le_of_lt below), passes earlier below]
    · rw [agree stage (Nat.le_refl _), fails]

/-- If all that passes still passes, the active stage does not go back. -/
theorem active_le_of_checks
    (keeps : ∀ stage, setup.check requirements calendar stage = .ok () →
      other.check otherRequirements otherCalendar stage = .ok ()) :
    (setup.assess requirements calendar).progress.active ≤
      (other.assess otherRequirements otherCalendar).progress.active := by
  refine (setup.active_isLeast requirements calendar).2 ?_
  rcases (other.active_isLeast otherRequirements otherCalendar).1 with ready | fails
  · exact .inl ready
  · exact .inr fun passes => fails (keeps _ passes)

/-- If the active stage does not go back, every complete stage is still complete. -/
theorem mem_completed_of_active_le
    (further : (setup.assess requirements calendar).progress.active ≤
      (other.assess otherRequirements otherCalendar).progress.active) :
    ∀ stage ∈ (setup.assess requirements calendar).progress.completed,
      stage ∈ (other.assess otherRequirements otherCalendar).progress.completed := by
  intro stage complete
  rw [mem_completed_iff] at complete ⊢
  exact Nat.lt_of_lt_of_le complete further

end

/-- **The assessment finds the first failing stage.**  The active stage is the least one
whose own check fails, the genesis standing for none; the complete stages are exactly
those below it, in order; that nothing falls short, that the setup is ready and that all
checks pass are one and the same; the shortfall is the one that the check of the active
stage gives; and a setup with the same outcomes up to the active stage has the same
assessment, whatever its later sections hold. -/
theorem assess_finds_first_failing (setup : Setup) (requirements : Requirements)
    (calendar : Calendar Instant) :
    let assessment := setup.assess requirements calendar
    let progress := assessment.progress
    IsLeast {stage | stage = .genesis ∨ setup.check requirements calendar stage ≠ .ok ()}
        progress.active ∧
      (progress.completed.Pairwise (· < ·) ∧
        ∀ stage, stage ∈ progress.completed ↔ stage < progress.active) ∧
      [assessment.shortfall? = none, progress.isReady = true,
        ∀ stage < .genesis, setup.check requirements calendar stage = .ok ()].TFAE ∧
      setup.check requirements calendar progress.active =
        (match assessment.shortfall? with
        | none => .ok ()
        | some shortfall => .error shortfall) ∧
      ∀ other : Setup,
        (∀ stage ≤ progress.active,
          other.check requirements calendar stage = setup.check requirements calendar stage) →
        other.assess requirements calendar = assessment := by
  intro assessment progress
  exact ⟨setup.active_isLeast requirements calendar,
    ⟨setup.completed_pairwise_lt requirements calendar,
      fun stage => setup.mem_completed_iff requirements calendar⟩,
    setup.ready_tfae requirements calendar, setup.check_active requirements calendar,
    fun other => assess_eq_of_agree⟩

/-- A setup that stops at the missing timing is not helped by candidates, nor hurt by an
empty list of trustees. -/
theorem assess_stopped_at_timing :
    let calendar : Calendar Nat := ⟨fun _ => true, fun _ => none⟩
    let bare : Setup := { name := "Town Vote", encryptionParameters := some ⟨"Ag", "Aw", "AQ"⟩ }
    let fuller : Setup :=
      { bare with candidates := some (Candidate.ofNames ["Anna", "Bob"]), trustees := some [] }
    (bare.assess .usual calendar).progress = ⟨.timing, [.basics]⟩ ∧
      fuller.assess .usual calendar = bare.assess .usual calendar := by
  intro calendar bare fuller
  have stopped : (bare.assess .usual calendar).progress = ⟨.timing, [.basics]⟩ := rfl
  have found := bare.assess_finds_first_failing .usual calendar
  refine ⟨stopped, found.2.2.2.2 fuller fun stage early => ?_⟩
  rw [stopped] at early
  cases stage with
  | basics | timing => rfl
  | _ => exact absurd early (by decide)

end Setup

end ElectionReadiness
