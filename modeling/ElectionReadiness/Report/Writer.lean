import ElectionReadiness.Json.Pretty
import ElectionReadiness.Json.Record
import ElectionReadiness.Report.Basic

/-!
# Writing reports

A report is written as a JSON object whose members are in the order of their names.
Without a schedule there is no member for it.
-/

set_option autoImplicit false

namespace ElectionReadiness

open Json
open Json.Value

/-- A universal time as a value. -/
def CivilTime.universalValue (time : CivilTime) : Value := .string time.universalText

/-- The key of a stage as a value. -/
def Stage.value (stage : Stage) : Value := .string stage.key

/-- The state of a stage as a value. -/
def StageStatus.value (status : StageStatus) : Value :=
  .object [("done", .bool status.isDone), ("label", .string status.stage.label),
    ("stage", status.stage.value)]

/-- A phase of the schedule as a value. -/
def ScheduledPhase.value (scheduled : ScheduledPhase) : Value :=
  .object [("closes", ofOption CivilTime.universalValue scheduled.closes),
    ("opens", ofOption CivilTime.universalValue scheduled.opens),
    ("phase", .string scheduled.phase.key)]

namespace Report

/-- The member for the schedule, if there is one. -/
def scheduleMember (report : Report) : List (String × Value) :=
  match report.schedule with
  | none => []
  | some schedule => [("schedule", ofList ScheduledPhase.value schedule)]

/-- A report as a value. -/
def value (report : Report) : Value :=
  .object ([("activeStage", report.activeStage.value),
    ("completed", ofList Stage.value report.completed),
    ("election", .string report.election),
    ("ready", .bool report.isReady),
    ("reason", ofOption .string report.reason)]
    ++ report.scheduleMember
    ++ [("selectedTab", report.selectedTab.value),
      ("stages", ofList StageStatus.value report.stages)])

/-- A report as it is written. -/
def text (report : Report) : String := report.value.pretty

end Report

end ElectionReadiness
