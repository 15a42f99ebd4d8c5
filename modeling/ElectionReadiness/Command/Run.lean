import ElectionReadiness.Command.Arguments
import ElectionReadiness.Command.Environment
import ElectionReadiness.Command.Failure
import ElectionReadiness.Differences.Basic
import ElectionReadiness.Report.Writer
import ElectionReadiness.SetupFile.Reader
import ElectionReadiness.SetupFile.Writer
import ElectionReadiness.TimeZone.Lookup

/-!
# Running the command

The command reads a setup file, saves it again if asked to, and writes the report on it
to a file or prints it.  Then it compares the report with a reference, if one is given,
and shows the differences.  Asked for time zones it lists them and does nothing else.
A file that is not there yet counts as the setup of a new election.
-/

set_option autoImplicit false

namespace ElectionReadiness.Command

variable {m : Type → Type} [Monad m]

/-- An action in some surroundings that can fail. -/
abbrev Action (m : Type → Type) (α : Type) : Type := ExceptT Failure m α

/-- Lifts an action that cannot fail. -/
def always {α : Type} (action : m α) : Action m α := ExceptT.lift action

/-! ## Setup files -/

/-- Reads a setup file, none if there is none yet. -/
def readSetup (environment : Environment m) (path : String) : Action m (Option SetupFile) := do
  if ← always (environment.isPresent path) then
    match ← always (environment.readText path) with
    | none => throw (.opening path)
    | some text =>
      match SetupFile.read? text with
      | none => throw (.parsing path)
      | some file => do
        always (environment.tell (.loaded path))
        pure (some file)
  else
    always (environment.tell .newElection)
    pure none

/-- Writes a text to a file. -/
def writeFile (environment : Environment m) (path text : String) : Action m Unit := do
  if ← always (environment.writeText path text) then pure () else throw (.writing path)

/-- Saves a setup file in its own form. -/
def saveSetup (environment : Environment m) (path : String) (file : SetupFile) : Action m Unit :=
  writeFile environment path file.text

/-! ## Reports -/

/-- The name that stands for printing instead of a file. -/
def standardOutput : String := "stdout"

/-- Writes a report where it is wanted. -/
def writeReport (environment : Environment m) (out : Option String) (report : String) :
    Action m Unit :=
  let path := out.getD ""
  if path.isEmpty || path == standardOutput then always (environment.print (report ++ "\n"))
  else do
    writeFile environment path report
    always (environment.tell (.reportWritten path))

/-- Compares a report with the reference in a file. -/
def checkReference (environment : Environment m) (path report : String) : Action m Unit := do
  match ← always (environment.readText path) with
  | none => throw (.opening path)
  | some text =>
    match Json.Value.parse? text with
    | none => throw (.parsing path)
    | some reference =>
      if reference.pretty = report then always (environment.tell (.referenceMatches path))
      else do
        always (environment.tell .referenceDiffers)
        always (environment.print (Differences.text reference.pretty report))
        throw .difference

/-! ## The run -/

/-- The tab that a key chooses; no key and an empty key leave the choice open. -/
def tabChoice : Option String → Except Failure TabChoice
  | none => .ok .automatic
  | some key =>
    if key.isEmpty then .ok .automatic
    else
      match Stage.ofKey? key with
      | none => .error (.unknownTab key)
      | some stage => .ok (.explicit stage)

/-- The requirements that arguments ask for. -/
def Arguments.requirements (arguments : Arguments) : Requirements :=
  { Requirements.usual with
    candidateNames := if arguments.lenientCandidateNames then .lenient else .strict }

/-- Prints the names of zones that begin with a text, each on a line. -/
def listZones (environment : Environment m) (start : String) : Action m Unit :=
  always (environment.print (String.join ((TimeZone.namesFrom start).map (· ++ "\n"))))

/-- Assesses the setup in a file. -/
def runSetup (environment : Environment m) (arguments : Arguments) (path : String)
    (tab : TabChoice) : Action m Unit := do
  let file := (← readSetup environment path).getD {}
  if arguments.save then
    saveSetup environment path file
    always (environment.tell (.saved path))
  for notice in file.setup.reportNotices arguments.requirements do
    always (environment.tell notice)
  let report := (file.setup.report arguments.requirements tab).text
  writeReport environment arguments.out report
  match arguments.reference with
  | none => pure ()
  | some reference => checkReference environment reference report

/-- Does what arguments ask for. -/
def run (environment : Environment m) (arguments : Arguments) : Action m Unit :=
  match arguments.zones with
  | some start => listZones environment start
  | none =>
    match arguments.config with
    | none => throw .missingConfig
    | some path =>
      match tabChoice arguments.tab with
      | .error failure => throw failure
      | .ok tab => runSetup environment arguments path tab

end ElectionReadiness.Command
