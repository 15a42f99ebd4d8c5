import ElectionReadiness.Calendar.Basic
import ElectionReadiness.Setup.Document
import ElectionReadiness.Setup.Progress
import ElectionReadiness.Setup.Requirements
import ElectionReadiness.Setup.Shortfall
import ElectionReadiness.Text.Blank
import ElectionReadiness.WebAddress.Scheme

/-!
# Assessing a setup

Every stage has a check of its own, which passes or says what falls short.  The
assessment goes through the stages in order and stops at the first whose check
fails: that stage is active, the stages before it are complete, and the shortfall
is the one its check gave.  If no check fails the setup is ready.

The windows of the phases are checked one after the other.  Each must open no
earlier than the one before it closes, and close no earlier than it opens; they
may touch and be empty.
-/

set_option autoImplicit false

namespace ElectionReadiness

/-! ## The basics -/

/-- The election has encryption parameters and a name. -/
def Setup.checkBasics (setup : Setup) : Except Shortfall Unit :=
  if setup.encryptionParameters.isNone then .error .missingEncryptionParameters
  else if setup.name.isEmpty then .error .missingName
  else .ok ()

/-! ## The timing -/

/-- The ends of a window, if neither is missing or empty. -/
def Window.ends? (window : Window) : Option (String × String) :=
  match window.opens, window.closes with
  | some opens, some closes =>
    if opens.isEmpty || closes.isEmpty then none else some (opens, closes)
  | _, _ => none

namespace Timing

variable {Instant : Type} [LT Instant] [DecidableLT Instant]

/-- Checks the window of a phase, which must not open before `floor`, and gives
the instant at which it closes. -/
def checkWindow (timing : Timing) (calendar : Calendar Instant) (floor : Option Instant)
    (phase : Phase) : Except Shortfall Instant :=
  match (timing.window phase).bind Window.ends? with
  | none => .error (.missingWindow phase)
  | some (opens, closes) =>
    match calendar.instant? opens with
    | none => .error (.malformedTimestamp phase opens)
    | some opening =>
      if floor.any fun previous => opening < previous then
        .error (.opensBeforePreviousCloses phase)
      else
        match calendar.instant? closes with
        | none => .error (.malformedTimestamp phase closes)
        | some closing =>
          if closing < opening then .error (.closesBeforeOpens phase) else .ok closing

/-- Checks the windows of phases that follow each other, the first of which must
not open before `floor`. -/
def checkWindows (timing : Timing) (calendar : Calendar Instant) (floor : Option Instant) :
    List Phase → Except Shortfall Unit
  | [] => .ok ()
  | phase :: later =>
    match timing.checkWindow calendar floor phase with
    | .error shortfall => .error shortfall
    | .ok closing => timing.checkWindows calendar (some closing) later

/-- The zone is known and the windows follow each other. -/
def check (timing : Timing) (calendar : Calendar Instant) : Except Shortfall Unit :=
  if calendar.isTimeZone timing.timeZone then timing.checkWindows calendar none Phase.all
  else .error (.unknownTimeZone timing.timeZone)

end Timing

/-! ## The people -/

/-- The index of the first blank name. -/
def firstBlank? (names : List String) : Option Nat := names.findIdx? Text.isBlankText

/-- There are enough candidates, with names unless names are not asked for. -/
def checkCandidates (requirements : Requirements) (candidates : List Candidate) :
    Except Shortfall Unit :=
  if candidates.length < requirements.minCandidates then
    .error (.tooFewCandidates candidates.length requirements.minCandidates)
  else
    match requirements.candidateNames, firstBlank? (candidates.map (·.name)) with
    | .strict, some index => .error (.blankCandidateName index)
    | _, _ => .ok ()

/-- There are enough trustees, all with names. -/
def checkTrustees (requirements : Requirements) (trustees : List Trustee) :
    Except Shortfall Unit :=
  if trustees.length < requirements.minTrustees then
    .error (.tooFewTrustees trustees.length requirements.minTrustees)
  else
    match firstBlank? (trustees.map (·.name)) with
    | some index => .error (.blankTrusteeName index)
    | none => .ok ()

/-! ## The registrar -/

/-- The schemes under which voters can register. -/
def registrationSchemes : List String := ["http", "https"]

/-- The registrar has a name and a web address for registration. -/
def Registrar.check (registrar : Registrar) : Except Shortfall Unit :=
  if Text.isBlankText registrar.name then .error .blankRegistrarName
  else
    let url := registrar.registrationUrl.getD ""
    match WebAddress.scheme? url with
    | none => .error (.invalidRegistrationUrl url)
    | some scheme =>
      if registrationSchemes.contains scheme then .ok ()
      else .error (.unsupportedUrlScheme scheme)

/-! ## All stages -/

/-- What an assessment finds. -/
structure Assessment where
  progress : Progress
  /-- Why the active stage is not complete, none if it is the genesis. -/
  shortfall? : Option Shortfall
  deriving DecidableEq, Repr

/-- The assessment once a stage before all others is complete too. -/
def Assessment.after (stage : Stage) (later : Assessment) : Assessment :=
  { later with
    progress := { later.progress with completed := stage :: later.progress.completed } }

/-- Goes through stages until a check fails. -/
def Assessment.ofChecks (check : Stage → Except Shortfall Unit) : List Stage → Assessment
  | [] => ⟨⟨.genesis, []⟩, none⟩
  | stage :: later =>
    match check stage with
    | .error shortfall => ⟨⟨stage, []⟩, some shortfall⟩
    | .ok () => (Assessment.ofChecks check later).after stage

namespace Setup

variable {Instant : Type} [LT Instant] [DecidableLT Instant]

/-- The check of a section that may still be missing. -/
def checkSection {Section : Type} (missing : Shortfall) (check : Section → Except Shortfall Unit)
    (content : Option Section) : Except Shortfall Unit :=
  match content with
  | none => .error missing
  | some present => check present

/-- The check of a stage on its own. -/
def check (setup : Setup) (requirements : Requirements) (calendar : Calendar Instant) :
    Stage → Except Shortfall Unit
  | .basics => setup.checkBasics
  | .timing => checkSection .missingTiming (·.check calendar) setup.timing
  | .candidates =>
    checkSection .missingCandidates (checkCandidates requirements) setup.candidates
  | .trustees => checkSection .missingTrustees (checkTrustees requirements) setup.trustees
  | .registrar => checkSection .missingRegistrar Registrar.check setup.registrar
  | .genesis => .ok ()

/-- The progress of a setup, and what keeps it from going on. -/
def assess (setup : Setup) (requirements : Requirements) (calendar : Calendar Instant) :
    Assessment :=
  Assessment.ofChecks (setup.check requirements calendar) Stage.checked

end Setup

end ElectionReadiness
