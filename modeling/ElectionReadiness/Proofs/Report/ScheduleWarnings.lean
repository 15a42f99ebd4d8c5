import ElectionReadiness.Proofs.Report.ScheduleOrder
import ElectionReadiness.Proofs.Setup.FirstFailing
import ElectionReadiness.Proofs.Setup.PassingChecks

/-!
# The warnings of a report

A report has a schedule and warnings of it exactly while the timing is complete.  Then the check
has read all eight boundaries, so making the schedule, which reads their texts once more, never
comes upon one that is missing or malformed.  What can still be missing is the universal time of
a boundary, if the clocks of the zone never show its civil time, and the warnings name these
boundaries one by one, in the order of the schedule (`Setup.warnings_name_missing_times`).
-/

set_option autoImplicit false

namespace ElectionReadiness

/-! ## Missing times -/

/-- The ends of a scheduled window that have no universal time. -/
def ScheduledPhase.missing (scheduled : ScheduledPhase) : List Boundary :=
  (Boundary.ofPhase scheduled.phase).filter fun boundary =>
    (scheduled.at boundary.side).isNone

/-- The boundaries of a schedule that have no universal time, in its order. -/
def missingTimes (schedule : List ScheduledPhase) : List Boundary :=
  schedule.flatMap ScheduledPhase.missing

namespace Timing

/-- The warning of a boundary that is read as a civil time. -/
def warningOf (timing : Timing) (civil : Boundary → CivilTime) (boundary : Boundary) : Notice :=
  .skippedTime boundary.phase (civil boundary) timing.timeZone

section

variable {timing : Timing} {civil : Boundary → CivilTime}
  (reads : ∀ boundary, timing.Reads Calendar.civil boundary (civil boundary))
include reads

theorem universal?_at (boundary : Boundary) :
    timing.universal? ((timing.windowOf boundary.phase).at boundary.side) =
      TimeZone.resolve timing.timeZone (civil boundary) := by
  rw [windowOf_at, universal?, (reads boundary).bind_read?, Option.bind_some]

theorem warnings_at (boundary : Boundary) :
    timing.warnings boundary.phase ((timing.windowOf boundary.phase).at boundary.side) =
      if (TimeZone.resolve timing.timeZone (civil boundary)).isSome then []
      else [timing.warningOf civil boundary] := by
  rw [windowOf_at, warnings, (reads boundary).bind_read?]
  rfl

/-- A phase is scheduled from the civil times of its boundaries. -/
theorem scheduledPhase_eq (phase : Phase) :
    timing.scheduledPhase phase =
      ⟨phase, TimeZone.resolve timing.timeZone (civil ⟨phase, .opening⟩),
        TimeZone.resolve timing.timeZone (civil ⟨phase, .closing⟩)⟩ := by
  rw [scheduledPhase, ← universal?_at reads, ← universal?_at reads]
  rfl

/-- The warnings of a phase are those of its missing times, its opening first. -/
theorem warnings_of_phase (phase : Phase) :
    timing.warnings phase (timing.windowOf phase).opens
        ++ timing.warnings phase (timing.windowOf phase).closes =
      (timing.scheduledPhase phase).missing.map (timing.warningOf civil) := by
  have opening := warnings_at reads ⟨phase, .opening⟩
  have closing := warnings_at reads ⟨phase, .closing⟩
  simp only [Window.at] at opening closing
  rw [opening, closing, scheduledPhase_eq reads]
  simp only [ScheduledPhase.missing, Boundary.ofPhase, ScheduledPhase.at, List.filter_cons,
    List.filter_nil]
  cases TimeZone.resolve timing.timeZone (civil ⟨phase, .opening⟩) <;>
    cases TimeZone.resolve timing.timeZone (civil ⟨phase, .closing⟩) <;> rfl

/-- All warnings are those of the missing times. -/
theorem scheduleWarnings_eq :
    timing.scheduleWarnings = (missingTimes timing.schedule).map (timing.warningOf civil) := by
  simp only [scheduleWarnings, warnings_of_phase reads, missingTimes, schedule, List.flatMap_map,
    List.map_flatMap]

end

/-- Whatever a schedule has to tell is a warning. -/
theorem level_of_mem_scheduleWarnings {timing : Timing} {notice : Notice}
    (mem : notice ∈ timing.scheduleWarnings) : notice.level = .warn := by
  have each {phase : Phase} {written : Option String}
      (mem : notice ∈ timing.warnings phase written) : notice.level = .warn := by
    unfold warnings at mem
    split at mem
    · cases mem
    · split at mem
      · cases mem
      · rw [List.mem_singleton.mp mem]
        rfl
  obtain ⟨phase, _, mem⟩ := List.mem_flatMap.mp mem
  rcases List.mem_append.mp mem with opening | closing
  · exact each opening
  · exact each closing

end Timing

/-! ## The report and its notices -/

namespace Setup

/-- The notices that warn. -/
def warningsAmong (notices : List Notice) : List Notice :=
  notices.filter fun notice => notice.level = .warn

theorem warningsAmong_scheduleWarnings (timing : Timing) :
    warningsAmong timing.scheduleWarnings = timing.scheduleWarnings := by
  refine List.filter_eq_self.mpr fun notice mem => ?_
  simpa using Timing.level_of_mem_scheduleWarnings mem

/-- Only the schedule warns. -/
theorem warningsAmong_reportNotices (setup : Setup) (requirements : Requirements) :
    warningsAmong (setup.reportNotices requirements) =
      match setup.completeTiming? (setup.assessCivil requirements).progress with
      | none => []
      | some timing => timing.scheduleWarnings := by
  have quiet : warningsAmong (setup.reportNotices requirements) =
      warningsAmong (match setup.completeTiming? (setup.assessCivil requirements).progress with
        | none => []
        | some timing => timing.scheduleWarnings) := by
    simp only [reportNotices]
    cases (setup.assessCivil requirements).shortfall? with
    | none => rfl
    | some shortfall => rfl
  rw [quiet]
  cases setup.completeTiming? (setup.assessCivil requirements).progress with
  | none => rfl
  | some timing => exact warningsAmong_scheduleWarnings timing

theorem completeTiming?_of_mem {setup : Setup} {progress : Progress}
    (complete : .timing ∈ progress.completed) : setup.completeTiming? progress = setup.timing := by
  rw [completeTiming?, Progress.isComplete, if_pos (List.contains_iff_mem.mpr complete)]

theorem completeTiming?_of_not_mem {setup : Setup} {progress : Progress}
    (incomplete : .timing ∉ progress.completed) : setup.completeTiming? progress = none := by
  rw [completeTiming?, Progress.isComplete,
    if_neg fun contained => incomplete (List.contains_iff_mem.mp contained)]

/-- **A report warns of the boundaries that its schedule leaves out, and of nothing else.**  Once
the timing is complete, all boundaries are read as civil times, and the schedule has the four
phases in order, with the resolved times of their boundaries.  Each boundary that resolves to
nothing is named by one warning, with its civil time and the zone, in the order of the schedule.
Until then there are neither a schedule nor warnings. -/
theorem warnings_name_missing_times (setup : Setup) (requirements : Requirements)
    (tab : TabChoice) :
    (.timing ∈ (setup.report requirements tab).completed →
      ∃ timing, setup.timing = some timing ∧
        ∃ civil : Boundary → CivilTime,
          (∀ boundary, timing.Reads Calendar.civil boundary (civil boundary)) ∧
          ∃ schedule, (setup.report requirements tab).schedule = some schedule ∧
            schedule = Phase.all.map (fun phase =>
              ⟨phase, TimeZone.resolve timing.timeZone (civil ⟨phase, .opening⟩),
                TimeZone.resolve timing.timeZone (civil ⟨phase, .closing⟩)⟩) ∧
            warningsAmong (setup.reportNotices requirements) =
              (missingTimes schedule).map fun boundary =>
                .skippedTime boundary.phase (civil boundary) timing.timeZone) ∧
    (.timing ∉ (setup.report requirements tab).completed →
      (setup.report requirements tab).schedule = none ∧
        warningsAmong (setup.reportNotices requirements) = []) := by
  have scheduled : (setup.report requirements tab).schedule =
    (setup.completeTiming? (setup.assessCivil requirements).progress).map Timing.schedule := rfl
  rw [scheduled, warningsAmong_reportNotices]
  constructor
  · intro complete
    have passes := ((setup.mem_completed_iff_passes requirements Calendar.civil).mp complete).2
      .timing (Nat.le_refl _)
    obtain ⟨timing, present, checked⟩ := checkSection_eq_ok_iff.mp passes
    obtain ⟨_, civil, reads, _⟩ := Timing.check_eq_ok_iff.mp checked
    -- The schedule reads the texts again that the check has read, so it reads the same times.
    rw [completeTiming?_of_mem complete, present]
    refine ⟨timing, rfl, civil, reads, timing.schedule, rfl, ?_, Timing.scheduleWarnings_eq reads⟩
    exact List.map_congr_left fun phase _ => Timing.scheduledPhase_eq reads phase
  · intro incomplete
    rw [completeTiming?_of_not_mem incomplete]
    exact ⟨rfl, rfl⟩

/-- A timing in Lagos with a window within the minutes that its clocks skipped in 1908. -/
def skippingTiming : Timing :=
  { lagosTiming with
    voteCasting := some ⟨some "1908-07-01T00:05", some "1908-07-01T00:10:00.5"⟩ }

/-- A setup with this timing. -/
def skippingSetup : Setup where
  name := "Lagos vote"
  encryptionParameters := some ⟨"2", "23", "11"⟩
  timing := some skippingTiming

/-- Both ends of the window that was skipped are warned of, its opening first.  Without a timing
there is nothing to warn of. -/
theorem lagos_warns_of_skipped_window :
    (∃ opening closing, CivilTime.read? "1908-07-01T00:05" = some opening ∧
      CivilTime.read? "1908-07-01T00:10:00.5" = some closing ∧
      warningsAmong (skippingSetup.reportNotices .usual) =
        [.skippedTime .voteCasting opening "Africa/Lagos",
          .skippedTime .voteCasting closing "Africa/Lagos"]) ∧
    (({ skippingSetup with timing := none } : Setup).report .usual .automatic).schedule = none ∧
    warningsAmong (({ skippingSetup with timing := none } : Setup).reportNotices .usual) = [] := by
  constructor
  · have complete : .timing ∈ (skippingSetup.report .usual .automatic).completed := by
      decide +kernel
    have missing : (skippingSetup.report .usual .automatic).schedule.map missingTimes =
        some [⟨.voteCasting, .opening⟩, ⟨.voteCasting, .closing⟩] := by decide +kernel
    obtain ⟨timing, present, civil, reads, schedule, reported, _, warns⟩ :=
      (warnings_name_missing_times skippingSetup .usual .automatic).1 complete
    rw [reported, Option.map_some, Option.some.injEq] at missing
    have same : skippingTiming = timing := Option.some.inj present
    subst same
    obtain ⟨_, written, _, opens⟩ := reads ⟨.voteCasting, .opening⟩
    obtain ⟨_, written', _, closes⟩ := reads ⟨.voteCasting, .closing⟩
    cases written
    cases written'
    rw [missing] at warns
    exact ⟨_, _, opens, closes, warns⟩
  · exact (warnings_name_missing_times { skippingSetup with timing := none } .usual .automatic).2
      (by decide +kernel)

end Setup

end ElectionReadiness
