import ElectionReadiness.Setup.Document
import ElectionReadiness.Text.Decimal

/-!
# Editing a setup

An edit fills in one part of a setup and leaves the others alone.  Setting the zone
or a window of a setup without timing starts the timing with everything else in it
missing.  Candidates and trustees are given by their names and numbered from one.
-/

set_option autoImplicit false

namespace ElectionReadiness

/-- One change to a setup. -/
inductive Edit where
  | name (value : String)
  | encryptionParameters (g p q : String)
  | timeZone (zone : String)
  | window (phase : Phase) (opens closes : String)
  | candidates (names : List String)
  | trustees (names : List String)
  | registrar (name registrationUrl : String)
  deriving DecidableEq, Repr

/-- Gives names the ids `label-1`, `label-2` and so on. -/
def numbered (label : String) (names : List String) : List (String × String) :=
  names.mapIdx fun index name => (label ++ "-" ++ Decimal.text (index + 1), name)

/-- The candidates with these names. -/
def Candidate.ofNames (names : List String) : List Candidate :=
  (numbered "candidate" names).map fun (id, name) => { id, name }

/-- The trustees with these names, still without keys. -/
def Trustee.ofNames (names : List String) : List Trustee :=
  (numbered "trustee" names).map fun (id, name) => { id, name }

namespace Setup

/-- The timing, started if there is none. -/
def startedTiming (setup : Setup) : Timing := setup.timing.getD {}

/-- The setup after an edit. -/
def edit (setup : Setup) : Edit → Setup
  | .name value => { setup with name := value }
  | .encryptionParameters g p q => { setup with encryptionParameters := some ⟨g, p, q⟩ }
  | .timeZone zone =>
    { setup with timing := some { setup.startedTiming with timeZone := zone } }
  | .window phase opens closes =>
    { setup with
      timing := some (setup.startedTiming.setWindow phase (some ⟨some opens, some closes⟩)) }
  | .candidates names => { setup with candidates := some (Candidate.ofNames names) }
  | .trustees names => { setup with trustees := some (Trustee.ofNames names) }
  | .registrar name url =>
    { setup with
      registrar := some { id := "registrar", name := name, registrationUrl := some url } }

/-- The setup after edits, one after the other. -/
def editAll (setup : Setup) (edits : List Edit) : Setup := edits.foldl edit setup

/-- The setup without the window of a phase. -/
def clearWindow (setup : Setup) (phase : Phase) : Setup :=
  { setup with timing := setup.timing.map fun timing => timing.setWindow phase none }

end Setup

end ElectionReadiness
