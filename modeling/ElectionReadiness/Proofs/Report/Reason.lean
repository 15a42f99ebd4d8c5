import ElectionReadiness.Proofs.Text.Template
import ElectionReadiness.Report.Basic

/-!
# The reason of a report

All that a report says of a shortfall is its message.  Nothing is lost by that: different
shortfalls have different messages, whatever texts and numbers stand in them
(`Setup.reason_tells_shortfall`).

A shortfall has a kind, which a template belongs to, and values, with which its message fills the
template.  The kind and the values are all there is to a shortfall (`Shortfall.ofKind?_kind`).  The
values can be read off the message because quotation marks and digits delimit themselves, and the
kind because the templates of two kinds are apart: where they first differ, at most one of them
goes on with what stands in the message (`Shortfall.Kind.templates_apart`).
-/

set_option autoImplicit false

namespace ElectionReadiness

namespace Shortfall

/-! ## Kinds and their templates -/

/-- A shortfall without its texts and numbers. -/
inductive Kind where
  | missingEncryptionParameters
  | missingName
  | missingTiming
  | unknownTimeZone
  | missingWindow (phase : Phase)
  | malformedTimestamp (phase : Phase)
  | opensBeforePreviousCloses (phase : Phase)
  | closesBeforeOpens (phase : Phase)
  | missingCandidates
  | tooFewCandidates
  | blankCandidateName
  | missingTrustees
  | tooFewTrustees
  | blankTrusteeName
  | missingRegistrar
  | blankRegistrarName
  | invalidRegistrationUrl
  | unsupportedUrlScheme
  deriving DecidableEq

namespace Kind

/-- All kinds. -/
def all : List Kind :=
  [missingEncryptionParameters, missingName, missingTiming, unknownTimeZone]
    ++ Phase.all.flatMap (fun phase => [missingWindow phase, malformedTimestamp phase,
      opensBeforePreviousCloses phase, closesBeforeOpens phase])
    ++ [missingCandidates, tooFewCandidates, blankCandidateName, missingTrustees, tooFewTrustees,
      blankTrusteeName, missingRegistrar, blankRegistrarName, invalidRegistrationUrl,
      unsupportedUrlScheme]

/-- The template that the messages of a kind fill. -/
def template : Kind → List Place
  | missingEncryptionParameters => wording "the encryption parameters are not set"
  | missingName => wording "the election has no name"
  | missingTiming => wording "the election timing is not set"
  | unknownTimeZone => wording "unknown time zone " ++ [.quoted]
  | missingWindow phase =>
    wording "the " ++ wording phase.title
      ++ wording " window needs an opening and a closing time"
  | malformedTimestamp phase =>
    wording "cannot read the time " ++ [.quoted] ++ wording " of the " ++ wording phase.title
      ++ wording " window"
  | opensBeforePreviousCloses phase =>
    wording "the " ++ wording phase.title
      ++ wording " window opens before the previous phase closes"
  | closesBeforeOpens phase =>
    wording "the " ++ wording phase.title ++ wording " window closes before it opens"
  | missingCandidates => wording "no candidates are listed"
  | tooFewCandidates =>
    [.number] ++ wording " candidate(s) listed, at least " ++ [.number]
      ++ wording " are required"
  | blankCandidateName => wording "candidate #" ++ [.number] ++ wording " has no name"
  | missingTrustees => wording "no trustees are listed"
  | tooFewTrustees =>
    [.number] ++ wording " trustee(s) listed, at least " ++ [.number] ++ wording " are required"
  | blankTrusteeName => wording "trustee #" ++ [.number] ++ wording " has no name"
  | missingRegistrar => wording "the registrar is not configured"
  | blankRegistrarName => wording "the registrar has no name"
  | invalidRegistrationUrl =>
    wording "the registration URL " ++ [.quoted] ++ wording " is not a valid URL"
  | unsupportedUrlScheme =>
    wording "the registration URL must use http or https, not " ++ [.quoted]

theorem mem_all (kind : Kind) : kind ∈ all := by
  cases kind <;> simp [all, Phase.mem_all]

/-- No text fills the templates of two kinds. -/
theorem templates_apart :
    ∀ one ∈ all, ∀ other ∈ all, one ≠ other → apart one.template other.template = true := by
  decide +kernel

theorem templates_endNumbers : ∀ kind ∈ all, endsNumbers kind.template = true := by
  decide +kernel

end Kind

/-- The kind of a shortfall. -/
def kind : Shortfall → Kind
  | missingEncryptionParameters => .missingEncryptionParameters
  | missingName => .missingName
  | missingTiming => .missingTiming
  | unknownTimeZone _ => .unknownTimeZone
  | missingWindow phase => .missingWindow phase
  | malformedTimestamp phase _ => .malformedTimestamp phase
  | opensBeforePreviousCloses phase => .opensBeforePreviousCloses phase
  | closesBeforeOpens phase => .closesBeforeOpens phase
  | missingCandidates => .missingCandidates
  | tooFewCandidates _ _ => .tooFewCandidates
  | blankCandidateName _ => .blankCandidateName
  | missingTrustees => .missingTrustees
  | tooFewTrustees _ _ => .tooFewTrustees
  | blankTrusteeName _ => .blankTrusteeName
  | missingRegistrar => .missingRegistrar
  | blankRegistrarName => .blankRegistrarName
  | invalidRegistrationUrl _ => .invalidRegistrationUrl
  | unsupportedUrlScheme _ => .unsupportedUrlScheme

/-- The texts and numbers in the message of a shortfall.  People are counted from one there. -/
def values : Shortfall → List MessageValue
  | unknownTimeZone zone => [.text zone]
  | malformedTimestamp _ value => [.text value]
  | tooFewCandidates found required => [.number found, .number required]
  | blankCandidateName index => [.number (index + 1)]
  | tooFewTrustees found required => [.number found, .number required]
  | blankTrusteeName index => [.number (index + 1)]
  | invalidRegistrationUrl url => [.text url]
  | unsupportedUrlScheme scheme => [.text scheme]
  | _ => []

/-- The shortfall of a kind with values. -/
def ofKind? : Kind → List MessageValue → Option Shortfall
  | .missingEncryptionParameters, [] => some missingEncryptionParameters
  | .missingName, [] => some missingName
  | .missingTiming, [] => some missingTiming
  | .unknownTimeZone, [.text zone] => some (unknownTimeZone zone)
  | .missingWindow phase, [] => some (missingWindow phase)
  | .malformedTimestamp phase, [.text value] => some (malformedTimestamp phase value)
  | .opensBeforePreviousCloses phase, [] => some (opensBeforePreviousCloses phase)
  | .closesBeforeOpens phase, [] => some (closesBeforeOpens phase)
  | .missingCandidates, [] => some missingCandidates
  | .tooFewCandidates, [.number found, .number required] => some (tooFewCandidates found required)
  | .blankCandidateName, [.number (index + 1)] => some (blankCandidateName index)
  | .missingTrustees, [] => some missingTrustees
  | .tooFewTrustees, [.number found, .number required] => some (tooFewTrustees found required)
  | .blankTrusteeName, [.number (index + 1)] => some (blankTrusteeName index)
  | .missingRegistrar, [] => some missingRegistrar
  | .blankRegistrarName, [] => some blankRegistrarName
  | .invalidRegistrationUrl, [.text url] => some (invalidRegistrationUrl url)
  | .unsupportedUrlScheme, [.text scheme] => some (unsupportedUrlScheme scheme)
  | _, _ => none

/-- A shortfall is told by its kind and its values. -/
theorem ofKind?_kind (shortfall : Shortfall) :
    ofKind? shortfall.kind shortfall.values = some shortfall := by
  cases shortfall <;> rfl

/-! ## Messages -/

/-- The message of a shortfall fills the template of its kind with its values. -/
theorem fills_message (shortfall : Shortfall) :
    FillsText shortfall.kind.template shortfall.values shortfall.message := by
  cases shortfall with
  | missingEncryptionParameters => exact .wording _
  | missingName => exact .wording _
  | missingTiming => exact .wording _
  | unknownTimeZone zone => exact (FillsText.wording _).append (.quoted zone)
  | missingWindow phase =>
      exact ((FillsText.wording _).append (.wording phase.title)).append (.wording _)
  | malformedTimestamp phase value =>
      exact ((((FillsText.wording _).append (.quoted value)).append (.wording _)).append
        (.wording phase.title)).append (.wording _)
  | opensBeforePreviousCloses phase =>
      exact ((FillsText.wording _).append (.wording phase.title)).append (.wording _)
  | closesBeforeOpens phase =>
      exact ((FillsText.wording _).append (.wording phase.title)).append (.wording _)
  | missingCandidates => exact .wording _
  | tooFewCandidates found required =>
      exact (((FillsText.number found).append (.wording _)).append (.number required)).append
        (.wording _)
  | blankCandidateName index =>
      exact ((FillsText.wording _).append (.number (index + 1))).append (.wording _)
  | missingTrustees => exact .wording _
  | tooFewTrustees found required =>
      exact (((FillsText.number found).append (.wording _)).append (.number required)).append
        (.wording _)
  | blankTrusteeName index =>
      exact ((FillsText.wording _).append (.number (index + 1))).append (.wording _)
  | missingRegistrar => exact .wording _
  | blankRegistrarName => exact .wording _
  | invalidRegistrationUrl url =>
      exact ((FillsText.wording _).append (.quoted url)).append (.wording _)
  | unsupportedUrlScheme scheme => exact (FillsText.wording _).append (.quoted scheme)

/-- Different shortfalls have different messages. -/
theorem message_inj {one other : Shortfall} : one.message = other.message ↔ one = other := by
  refine ⟨fun same => ?_, congrArg message⟩
  have filled : Fills one.kind.template one.values other.message.toList := by
    rw [← same]
    exact one.fills_message
  have filled' : Fills other.kind.template other.values other.message.toList := other.fills_message
  have ends (kind : Kind) : endsNumbers kind.template = true :=
    Kind.templates_endNumbers kind kind.mem_all
  have kinds : one.kind = other.kind := by
    by_contra different
    have apart := Kind.templates_apart _ one.kind.mem_all _ other.kind.mem_all different
    rw [filled.not_apart filled' (ends _) (ends _)] at apart
    cases apart
  have values : one.values = other.values := by
    rw [kinds] at filled
    exact filled.values_unique filled' (ends _)
  have told := one.ofKind?_kind
  rw [kinds, values, other.ofKind?_kind] at told
  exact (Option.some.inj told).symm

end Shortfall

/-! ## Reports -/

/-- **The reason of a report tells the shortfall.**  Two shortfalls have one message only if they
are the same, with the same texts, phases, counts and indices.  So two reports give the same reason
exactly if the assessments they are made from found the same shortfall, or none, whatever the
setups, the requirements and the tabs are. -/
theorem Setup.reason_tells_shortfall :
    (∀ one other : Shortfall, one.message = other.message ↔ one = other) ∧
    ∀ (setup other : Setup) (requirements requirements' : Requirements) (tab tab' : TabChoice),
      (setup.report requirements tab).reason = (other.report requirements' tab').reason ↔
        (setup.assessCivil requirements).shortfall? =
          (other.assessCivil requirements').shortfall? := by
  refine ⟨fun _ _ => Shortfall.message_inj, ?_⟩
  intro setup other requirements requirements' tab tab'
  have injective : Function.Injective Shortfall.message := fun _ _ => Shortfall.message_inj.mp
  exact (Option.map_injective injective).eq_iff

end ElectionReadiness
