import ElectionReadiness.Setup.Stage

/-!
# Progress

How far a setup has come: the stages that are complete, in order, and the one that
is next.  `TabChoice` is the stage that a user looks at, which follows the progress
unless the user has chosen one.
-/

set_option autoImplicit false

namespace ElectionReadiness

/-- How far a setup has come. -/
structure Progress where
  /-- The first stage that is not complete, the genesis if all are. -/
  active : Stage
  /-- The stages that are complete, in order. -/
  completed : List Stage
  deriving DecidableEq, Repr

namespace Progress

/-- A stage is complete. -/
def isComplete (progress : Progress) (stage : Stage) : Bool :=
  progress.completed.contains stage

/-- All stages before the genesis are complete. -/
def isReady (progress : Progress) : Bool := progress.active == .genesis

end Progress

/-- The stage a user looks at. -/
inductive TabChoice where
  /-- The active stage, whichever it is. -/
  | automatic
  | explicit (stage : Stage)
  deriving DecidableEq, Repr

/-- The stage that a choice shows. -/
def TabChoice.resolve (choice : TabChoice) (progress : Progress) : Stage :=
  match choice with
  | automatic => progress.active
  | explicit stage => stage

end ElectionReadiness
