import ElectionReadiness.Calendar.CivilTime.Writer
import ElectionReadiness.Setup.Shortfall
import ElectionReadiness.Setup.Stage

/-!
# Notices

What the program tells about its work, besides its results.  A notice informs, or warns
of something the user may not have meant.
-/

set_option autoImplicit false

namespace ElectionReadiness

/-- How much a notice matters. -/
inductive Notice.Level where
  | info
  | warn
  deriving DecidableEq, Repr

/-- Something to tell. -/
inductive Notice where
  /-- A setup was assessed: its name, its active stage and how many are complete. -/
  | assessed (name : String) (active : Stage) (complete : Nat)
  | incomplete (stage : Stage) (shortfall : Shortfall)
  /-- The clocks of a zone never show a time. -/
  | skippedTime (phase : Phase) (time : CivilTime) (zone : String)
  | newElection
  | loaded (path : String)
  | saved (path : String)
  | reportWritten (path : String)
  | referenceDiffers
  | referenceMatches (path : String)
  deriving DecidableEq

namespace Notice

/-- The word for a level. -/
def Level.word : Level → String
  | info => "INFO"
  | warn => "WARN"

/-- How much a notice matters. -/
def level : Notice → Level
  | skippedTime _ _ _ => .warn
  | referenceDiffers => .warn
  | _ => .info

/-- A notice in words. -/
def message : Notice → String
  | assessed name active complete =>
    "Setup of " ++ Quoted.text name ++ ": active stage " ++ active.key ++ ", "
      ++ Decimal.text complete ++ " stage(s) complete"
  | incomplete stage shortfall => "Stage " ++ stage.key ++ " is incomplete: " ++ shortfall.message
  | skippedTime phase time zone =>
    "The " ++ phase.title ++ " time " ++ time.text ++ " does not exist in " ++ zone
  | newElection => "No setup data file: starting a new election"
  | loaded path => "Loaded setup data from " ++ path
  | saved path => "Saved setup data to " ++ path
  | reportWritten path => "Progress report written to " ++ path
  | referenceDiffers => "Found differences with the reference report"
  | referenceMatches path => "Progress report matches the reference " ++ path

/-- A notice with its level. -/
def line (notice : Notice) : String := notice.level.word ++ " " ++ notice.message

end Notice

end ElectionReadiness
