import ElectionReadiness.Text.Quoted

/-!
# Failures of the command

The ways in which a run of the command can fail, and what it says then.
-/

set_option autoImplicit false

namespace ElectionReadiness.Command

/-- Why a run failed. -/
inductive Failure where
  /-- A file cannot be read as text. -/
  | opening (path : String)
  /-- A file holds no JSON, or not what it should hold. -/
  | parsing (path : String)
  | writing (path : String)
  | missingConfig
  | unknownTab (key : String)
  /-- The report is not the reference. -/
  | difference
  deriving DecidableEq, Repr

/-- A failure in words. -/
def Failure.message : Failure → String
  | opening path => "Error opening file " ++ path
  | parsing path => "Error parsing the JSON content of " ++ path
  | writing path => "Error writing file " ++ path
  | missingConfig => "No setup file given (use --config)"
  | unknownTab key => "Unknown tab " ++ Quoted.text key
  | difference => "Difference detected between the progress report and the reference report"

end ElectionReadiness.Command
