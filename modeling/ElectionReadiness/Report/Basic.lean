import ElectionReadiness.Report.Schedule
import ElectionReadiness.Setup.Assessment

/-!
# Reports

A report tells how far the setup of an election has come: its active stage, the stage
to look at, which stages are complete, why the active stage is not, and the schedule
once the timing is complete.
-/

set_option autoImplicit false

namespace ElectionReadiness

/-- A stage, and whether it is complete. -/
structure StageStatus where
  stage : Stage
  isDone : Bool
  deriving DecidableEq, Repr

/-- How far the setup of an election has come. -/
structure Report where
  election : String
  activeStage : Stage
  selectedTab : Stage
  isReady : Bool
  completed : List Stage
  stages : List StageStatus
  reason : Option String
  schedule : Option (List ScheduledPhase)
  deriving DecidableEq

namespace Setup

/-- The assessment in the zones and civil times of the world. -/
def assessCivil (setup : Setup) (requirements : Requirements) : Assessment :=
  setup.assess requirements Calendar.civil

/-- The timing, once it is complete. -/
def completeTiming? (setup : Setup) (progress : Progress) : Option Timing :=
  if progress.isComplete .timing then setup.timing else none

/-- The report on a setup. -/
def report (setup : Setup) (requirements : Requirements) (tab : TabChoice) : Report :=
  let assessment := setup.assessCivil requirements
  let progress := assessment.progress
  { election := setup.name
    activeStage := progress.active
    selectedTab := tab.resolve progress
    isReady := progress.isReady
    completed := progress.completed
    stages := Stage.all.map fun stage => ⟨stage, progress.isComplete stage⟩
    reason := assessment.shortfall?.map Shortfall.message
    schedule := (setup.completeTiming? progress).map Timing.schedule }

/-- What there is to tell while a report is made. -/
def reportNotices (setup : Setup) (requirements : Requirements) : List Notice :=
  let assessment := setup.assessCivil requirements
  let progress := assessment.progress
  let reasons := match assessment.shortfall? with
    | none => []
    | some shortfall => [Notice.incomplete progress.active shortfall]
  let warnings := match setup.completeTiming? progress with
    | none => []
    | some timing => timing.scheduleWarnings
  .assessed setup.name progress.active progress.completed.length :: (reasons ++ warnings)

end Setup

end ElectionReadiness
