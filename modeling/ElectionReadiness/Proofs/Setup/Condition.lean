import ElectionReadiness.Proofs.Setup.PassingChecks
import ElectionReadiness.Proofs.Setup.WindowOrder
import ElectionReadiness.Setup.Assessment
import Mathlib.Order.Bounds.Basic

/-!
# The conditions that a setup must meet

What is asked of a setup, condition by condition, in the order in which a user should hear of
them (`Condition.all`).  `Condition.Holds` says what a condition means of the sections of a
setup, and `Condition.IsReportedBy` which shortfall tells that it is violated, with the texts,
numbers and indices that the shortfall must carry.  Neither mentions a check.  A condition and
the shortfall that reports it belong to the same stage (`Condition.IsReportedBy.stage_eq`).
-/

set_option autoImplicit false

namespace ElectionReadiness

/-- The phase before another. -/
def Phase.previous? : Phase → Option Phase
  | .parameterConfirmation => none
  | .voterRegistration => some .parameterConfirmation
  | .voteCasting => some .voterRegistration
  | .tallyDecryption => some .voteCasting

/-- A condition that a setup must meet. -/
inductive Condition where
  | parametersGiven
  | named
  | timingGiven
  | zoneKnown
  /-- The window has an opening and a closing. -/
  | windowWritten (phase : Phase)
  | openingRead (phase : Phase)
  /-- The window does not open before that of the previous phase closes. -/
  | followsPrevious (phase : Phase)
  | closingRead (phase : Phase)
  /-- The window does not close before it opens. -/
  | closesLater (phase : Phase)
  | candidatesListed
  | enoughCandidates
  | candidatesNamed
  | trusteesListed
  | enoughTrustees
  | trusteesNamed
  | registrarGiven
  | registrarNamed
  | addressValid
  | schemeSupported
  deriving DecidableEq, Repr

/-- The first blank name of a list is at an index. -/
def IsFirstBlank (names : List String) (index : Nat) : Prop :=
  IsLeast {place | ∃ name, names[place]? = some name ∧ IsBlankName name} index

/-- The text of the address where voters register, empty if it is missing. -/
def Registrar.addressText (registrar : Registrar) : String := registrar.registrationUrl.getD ""

namespace Condition

/-! ## The order of the conditions -/

/-- The conditions on the window of a phase. -/
def ofPhase (phase : Phase) : List Condition :=
  [windowWritten phase, openingRead phase, followsPrevious phase, closingRead phase,
    closesLater phase]

/-- The conditions on a stage. -/
def ofStage : Stage → List Condition
  | .basics => [parametersGiven, named]
  | .timing => timingGiven :: zoneKnown :: Phase.all.flatMap ofPhase
  | .candidates => [candidatesListed, enoughCandidates, candidatesNamed]
  | .trustees => [trusteesListed, enoughTrustees, trusteesNamed]
  | .registrar => [registrarGiven, registrarNamed, addressValid, schemeSupported]
  | .genesis => []

/-- All conditions in order. -/
def all : List Condition := Stage.checked.flatMap ofStage

/-! ## What the conditions mean -/

/-- A setup meets a condition. -/
def Holds {Instant : Type} [LT Instant] (setup : Setup) (requirements : Requirements)
    (calendar : Calendar Instant) : Condition → Prop
  | parametersGiven => ∃ parameters, setup.encryptionParameters = some parameters
  | named => setup.name ≠ ""
  | timingGiven => ∃ timing, setup.timing = some timing
  | zoneKnown =>
    ∃ timing, setup.timing = some timing ∧ calendar.isTimeZone timing.timeZone = true
  | windowWritten phase =>
    ∃ timing, setup.timing = some timing ∧
      ∀ side, ∃ text, timing.written? ⟨phase, side⟩ = some text ∧ text ≠ ""
  | openingRead phase =>
    ∃ timing, setup.timing = some timing ∧
      ∃ opening, timing.Reads calendar ⟨phase, .opening⟩ opening
  | followsPrevious phase =>
    ∃ timing, setup.timing = some timing ∧
      ∀ previous, phase.previous? = some previous → ∀ closing opening,
        timing.Reads calendar ⟨previous, .closing⟩ closing →
          timing.Reads calendar ⟨phase, .opening⟩ opening → ¬opening < closing
  | closingRead phase =>
    ∃ timing, setup.timing = some timing ∧
      ∃ closing, timing.Reads calendar ⟨phase, .closing⟩ closing
  | closesLater phase =>
    ∃ timing, setup.timing = some timing ∧ ∀ opening closing,
      timing.Reads calendar ⟨phase, .opening⟩ opening →
        timing.Reads calendar ⟨phase, .closing⟩ closing → ¬closing < opening
  | candidatesListed => ∃ candidates, setup.candidates = some candidates
  | enoughCandidates =>
    ∃ candidates, setup.candidates = some candidates ∧
      requirements.minCandidates ≤ candidates.length
  | candidatesNamed =>
    ∃ candidates, setup.candidates = some candidates ∧
      (requirements.candidateNames = .strict → AllNamed Candidate.name candidates)
  | trusteesListed => ∃ trustees, setup.trustees = some trustees
  | enoughTrustees =>
    ∃ trustees, setup.trustees = some trustees ∧ requirements.minTrustees ≤ trustees.length
  | trusteesNamed =>
    ∃ trustees, setup.trustees = some trustees ∧ AllNamed Trustee.name trustees
  | registrarGiven => ∃ registrar, setup.registrar = some registrar
  | registrarNamed => ∃ registrar, setup.registrar = some registrar ∧ ¬IsBlankName registrar.name
  | addressValid =>
    ∃ registrar, setup.registrar = some registrar ∧
      ∃ scheme, WebAddress.scheme? registrar.addressText = some scheme
  | schemeSupported =>
    ∃ registrar, setup.registrar = some registrar ∧
      ∃ scheme, WebAddress.scheme? registrar.addressText = some scheme ∧
        scheme ∈ registrationSchemes

/-- A shortfall tells that a condition is violated, with what the setup holds there. -/
inductive IsReportedBy (setup : Setup) (requirements : Requirements) :
    Condition → Shortfall → Prop
  | parameters : IsReportedBy setup requirements parametersGiven .missingEncryptionParameters
  | name : IsReportedBy setup requirements named .missingName
  | timing : IsReportedBy setup requirements timingGiven .missingTiming
  | zone {timing : Timing} (given : setup.timing = some timing) :
      IsReportedBy setup requirements zoneKnown (.unknownTimeZone timing.timeZone)
  | window {phase : Phase} :
      IsReportedBy setup requirements (windowWritten phase) (.missingWindow phase)
  | opening {timing : Timing} {phase : Phase} {text : String} (given : setup.timing = some timing)
      (written : timing.written? ⟨phase, .opening⟩ = some text) :
      IsReportedBy setup requirements (openingRead phase) (.malformedTimestamp phase text)
  | previous {phase : Phase} :
      IsReportedBy setup requirements (followsPrevious phase) (.opensBeforePreviousCloses phase)
  | closing {timing : Timing} {phase : Phase} {text : String} (given : setup.timing = some timing)
      (written : timing.written? ⟨phase, .closing⟩ = some text) :
      IsReportedBy setup requirements (closingRead phase) (.malformedTimestamp phase text)
  | order {phase : Phase} :
      IsReportedBy setup requirements (closesLater phase) (.closesBeforeOpens phase)
  | candidates : IsReportedBy setup requirements candidatesListed .missingCandidates
  | candidateCount {candidates : List Candidate} (given : setup.candidates = some candidates)
      (few : candidates.length < requirements.minCandidates) :
      IsReportedBy setup requirements enoughCandidates
        (.tooFewCandidates candidates.length requirements.minCandidates)
  | candidateName {candidates : List Candidate} {index : Nat}
      (given : setup.candidates = some candidates)
      (first : IsFirstBlank (candidates.map Candidate.name) index) :
      IsReportedBy setup requirements candidatesNamed (.blankCandidateName index)
  | trustees : IsReportedBy setup requirements trusteesListed .missingTrustees
  | trusteeCount {trustees : List Trustee} (given : setup.trustees = some trustees)
      (few : trustees.length < requirements.minTrustees) :
      IsReportedBy setup requirements enoughTrustees
        (.tooFewTrustees trustees.length requirements.minTrustees)
  | trusteeName {trustees : List Trustee} {index : Nat} (given : setup.trustees = some trustees)
      (first : IsFirstBlank (trustees.map Trustee.name) index) :
      IsReportedBy setup requirements trusteesNamed (.blankTrusteeName index)
  | registrar : IsReportedBy setup requirements registrarGiven .missingRegistrar
  | registrarName : IsReportedBy setup requirements registrarNamed .blankRegistrarName
  | address {registrar : Registrar} (given : setup.registrar = some registrar) :
      IsReportedBy setup requirements addressValid (.invalidRegistrationUrl registrar.addressText)
  | scheme {registrar : Registrar} {scheme : String} (given : setup.registrar = some registrar)
      (read : WebAddress.scheme? registrar.addressText = some scheme) :
      IsReportedBy setup requirements schemeSupported (.unsupportedUrlScheme scheme)

/-! ## The stage that is to blame -/

/-- The stage that a condition is asked of. -/
def stage : Condition → Stage
  | parametersGiven | named => .basics
  | timingGiven | zoneKnown | windowWritten _ | openingRead _ | followsPrevious _ | closingRead _
  | closesLater _ => .timing
  | candidatesListed | enoughCandidates | candidatesNamed => .candidates
  | trusteesListed | enoughTrustees | trusteesNamed => .trustees
  | registrarGiven | registrarNamed | addressValid | schemeSupported => .registrar

theorem stage_of_mem_ofStage {stage : Stage} :
    ∀ condition ∈ ofStage stage, condition.stage = stage := by
  cases stage <;> decide

end Condition

/-- The stage that falls short. -/
def Shortfall.stage : Shortfall → Stage
  | missingEncryptionParameters | missingName => .basics
  | missingTiming | unknownTimeZone _ | missingWindow _ | malformedTimestamp _ _
  | opensBeforePreviousCloses _ | closesBeforeOpens _ => .timing
  | missingCandidates | tooFewCandidates _ _ | blankCandidateName _ => .candidates
  | missingTrustees | tooFewTrustees _ _ | blankTrusteeName _ => .trustees
  | missingRegistrar | blankRegistrarName | invalidRegistrationUrl _ | unsupportedUrlScheme _ =>
    .registrar

/-- A shortfall blames the stage that the violated condition is asked of. -/
theorem Condition.IsReportedBy.stage_eq {setup : Setup} {requirements : Requirements}
    {condition : Condition} {shortfall : Shortfall}
    (reported : condition.IsReportedBy setup requirements shortfall) :
    shortfall.stage = condition.stage := by
  cases reported <;> rfl

end ElectionReadiness
