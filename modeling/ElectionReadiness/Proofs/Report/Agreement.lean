import ElectionReadiness.Proofs.Report.ScheduleWarnings

/-!
# The parts of a report agree

A report says the same thing more than once: which stages are complete can be read off the list of
complete stages, the states of all stages and the active stage, and whether the election is ready
also from the reason.  Whatever the setup and the requirements are, the parts do not contradict
each other, and the tab that a user has chosen changes no part but its own
(`Setup.report_parts_agree`).

All of it comes from one fact on assessments: the complete stages and the active one stand at the
beginning of the list of all stages (`Setup.stages_split`).
-/

set_option autoImplicit false

namespace ElectionReadiness

/-! ## Agreement -/

/-- The parts of a report tell the same of every stage. -/
structure Report.Agrees (report : Report) : Prop where
  /-- All stages are listed, in order. -/
  lists : report.stages.map StageStatus.stage = Stage.all
  /-- The complete stages are those that are listed as done. -/
  completed : report.completed = (report.stages.filter StageStatus.isDone).map StageStatus.stage
  /-- They are the stages before the active one. -/
  active : ∃ later,
    report.stages.map StageStatus.stage = report.completed ++ report.activeStage :: later
  /-- The election is ready if the genesis is active, if no reason is given, and if the five stages
  before the genesis are done: each means the others. -/
  ready : [report.isReady = true, report.activeStage = .genesis, report.reason = none,
    ∀ status ∈ report.stages.take 5, status.isDone = true].TFAE
  /-- The genesis is never done. -/
  genesis : ∀ status ∈ report.stages, status.stage = .genesis → status.isDone = false
  /-- There is a schedule as soon as the timing is done. -/
  schedule : report.schedule.isSome = true ↔
    ∃ status ∈ report.stages, status.stage = .timing ∧ status.isDone = true

/-- The tab that a choice selects on a report. -/
def Report.tabOf (report : Report) : TabChoice → Stage
  | .automatic => report.activeStage
  | .explicit stage => stage

/-! ## Splitting the stages -/

namespace Stage

theorem all_nodup : all.Nodup := by decide

/-- No stage comes after the genesis. -/
theorem not_genesis_lt (stage : Stage) : ¬genesis < stage := by
  cases stage <;> decide

/-- Every stage but the genesis comes before it. -/
theorem lt_genesis_of_ne {stage : Stage} (different : stage ≠ genesis) : stage < genesis := by
  cases stage with
  | genesis => exact absurd rfl different
  | _ => decide

/-- To look for the stages at the beginning of the list among all stages gives these. -/
theorem filter_contains_of_split {before after : List Stage} (split : all = before ++ after) :
    all.filter (fun stage => before.contains stage) = before := by
  have distinct : (before ++ after).Nodup := split ▸ all_nodup
  have kept : before.filter (fun stage => before.contains stage) = before :=
    List.filter_eq_self.mpr fun stage mem => List.contains_iff_mem.mpr mem
  have dropped : after.filter (fun stage => before.contains stage) = [] := by
    refine List.filter_eq_nil_iff.mpr fun stage mem found => ?_
    exact (List.nodup_append.mp distinct).2.2 stage (List.contains_iff_mem.mp found) stage mem rfl
  rw [split, List.filter_append, kept, dropped, List.append_nil]

end Stage

namespace Setup

variable (setup : Setup) (requirements : Requirements)

/-- The stages are the complete ones, the active one and those after it. -/
theorem stages_split {Instant : Type} [LT Instant] [DecidableLT Instant]
    (calendar : Calendar Instant) :
    ∃ later, Stage.all = (setup.assess requirements calendar).progress.completed ++
      (setup.assess requirements calendar).progress.active :: later := by
  have all : Stage.all = Stage.checked ++ [.genesis] := rfl
  rcases setup.assess_ends_or_stops requirements calendar with
    ⟨_, found⟩ | ⟨before, stage, after, _, split, _, _, found⟩
  · rw [found]
    exact ⟨[], all⟩
  · rw [found]
    refine ⟨after ++ [.genesis], ?_⟩
    rw [all, split, List.append_assoc, List.cons_append]

/-! ## Reports -/

/-- The state of a stage on a report is whether it is complete. -/
theorem mem_stages_iff {tab : TabChoice} {status : StageStatus} :
    status ∈ (setup.report requirements tab).stages ↔
      (status.isDone = true ↔
        status.stage ∈ (setup.assessCivil requirements).progress.completed) := by
  obtain ⟨stage, isDone⟩ := status
  simp only [report, List.mem_map, StageStatus.mk.injEq]
  rw [← List.contains_iff_mem, ← Progress.isComplete, ← Bool.eq_iff_iff]
  constructor
  · rintro ⟨_, _, rfl, rfl⟩
    rfl
  · rintro rfl
    exact ⟨stage, stage.mem_all, rfl, rfl⟩

/-- The active stage is the genesis if all stages before it are complete. -/
theorem active_eq_genesis_iff {Instant : Type} [LT Instant] [DecidableLT Instant]
    (calendar : Calendar Instant) :
    (setup.assess requirements calendar).progress.active = .genesis ↔
      ∀ stage ∈ Stage.checked,
        stage ∈ (setup.assess requirements calendar).progress.completed := by
  simp only [mem_completed_iff, Stage.mem_checked_iff]
  constructor
  · intro reached stage below
    rw [reached]
    exact below
  · intro complete
    by_contra different
    exact Nat.lt_irrefl _ (complete _ (Stage.lt_genesis_of_ne different))

/-- The setup is ready if the genesis is active, and if nothing falls short. -/
theorem ready_reported_tfae (tab : TabChoice) :
    [(setup.report requirements tab).isReady = true,
      (setup.report requirements tab).activeStage = .genesis,
      (setup.report requirements tab).reason = none,
      ∀ status ∈ (setup.report requirements tab).stages.take 5, status.isDone = true].TFAE := by
  have found := (setup.ready_tfae requirements Calendar.civil).out 1 0
  have firstFive : (setup.report requirements tab).stages.take 5 =
    Stage.checked.map fun stage =>
      ⟨stage, (setup.assessCivil requirements).progress.isComplete stage⟩ := rfl
  tfae_have 1 ↔ 2 := beq_iff_eq
  tfae_have 1 ↔ 3 := found.trans Option.map_eq_none_iff.symm
  tfae_have 2 ↔ 4 := by
    rw [firstFive, List.forall_mem_map]
    simp only [Progress.isComplete, List.contains_iff_mem]
    exact setup.active_eq_genesis_iff requirements Calendar.civil
  tfae_finish

/-- There is a schedule exactly if the timing is complete: the check of a timing has passed, so
there is one to schedule. -/
theorem schedule_isSome_iff (tab : TabChoice) :
    (setup.report requirements tab).schedule.isSome = true ↔
      .timing ∈ (setup.assessCivil requirements).progress.completed := by
  have scheduled : (setup.report requirements tab).schedule =
    (setup.completeTiming? (setup.assessCivil requirements).progress).map Timing.schedule := rfl
  rw [scheduled, Option.isSome_map]
  constructor
  · intro there
    by_contra incomplete
    rw [completeTiming?_of_not_mem incomplete] at there
    cases there
  · intro complete
    have passes := ((setup.mem_completed_iff_passes requirements Calendar.civil).mp complete).2
      .timing (Nat.le_refl _)
    obtain ⟨timing, present, _⟩ := checkSection_eq_ok_iff.mp passes
    rw [completeTiming?_of_mem complete, present]
    rfl

/-- **The parts of a report agree with each other.**  The report on any setup lists all stages in
order.  The complete stages are the ones that are listed as done, and they are those before the
active one.  The election is ready exactly if the genesis is active, exactly if no reason is given,
and exactly if the first five stages are done; the genesis never is.  There is a schedule exactly
if the timing is done.  Another choice of the tab changes the selected tab alone, to the chosen
stage if there is one and to the active stage otherwise. -/
theorem report_parts_agree (tab : TabChoice) :
    (setup.report requirements tab).Agrees ∧
      ∀ other : TabChoice, setup.report requirements other =
        { setup.report requirements tab with
          selectedTab := (setup.report requirements tab).tabOf other } := by
  refine ⟨?_, fun other => by cases other <;> rfl⟩
  have split := setup.stages_split requirements Calendar.civil
  exact {
    lists := rfl
    completed := by
      obtain ⟨later, split⟩ := split
      have done : (setup.report requirements tab).stages.filter StageStatus.isDone =
          (Stage.all.filter (setup.assessCivil requirements).progress.isComplete).map
            fun stage => ⟨stage, (setup.assessCivil requirements).progress.isComplete stage⟩ :=
        List.filter_map
      rw [done, List.map_map]
      exact (Stage.filter_contains_of_split split).symm.trans (List.map_id _).symm
    active := split
    ready := setup.ready_reported_tfae requirements tab
    genesis := by
      intro status mem isGenesis
      rw [mem_stages_iff, isGenesis, assessCivil, mem_completed_iff] at mem
      exact Bool.eq_false_iff.mpr fun done => Stage.not_genesis_lt _ (mem.mp done)
    schedule := by
      rw [schedule_isSome_iff]
      constructor
      · intro complete
        refine ⟨⟨.timing, true⟩, ?_, rfl, rfl⟩
        rw [mem_stages_iff]
        exact iff_of_true rfl complete
      · rintro ⟨⟨stage, isDone⟩, mem, rfl, rfl⟩
        exact ((setup.mem_stages_iff requirements).mp mem).mp rfl }

-- Without a timing nothing is done but the basics, whichever tab is looked at.
example :
    ({ name := "Town Vote", encryptionParameters := some ⟨"Ag", "Aw", "AQ"⟩ } : Setup).report .usual
        (.explicit .registrar) =
      { election := "Town Vote"
        activeStage := .timing
        selectedTab := .registrar
        isReady := false
        completed := [.basics]
        stages := [⟨.basics, true⟩, ⟨.timing, false⟩, ⟨.candidates, false⟩, ⟨.trustees, false⟩,
          ⟨.registrar, false⟩, ⟨.genesis, false⟩]
        reason := some "the election timing is not set"
        schedule := none } := by
  decide +kernel

end Setup

end ElectionReadiness
