import ElectionReadiness.Setup.Phase
import ElectionReadiness.Text.Decimal
import ElectionReadiness.Text.Quoted

/-!
# Why a stage is not complete

Each way in which a section of a setup can fall short, with what is needed to name
it, and the message that says so.
-/

set_option autoImplicit false

namespace ElectionReadiness

/-- What keeps a stage from being complete. -/
inductive Shortfall where
  | missingEncryptionParameters
  | missingName
  | missingTiming
  | unknownTimeZone (zone : String)
  | missingWindow (phase : Phase)
  | malformedTimestamp (phase : Phase) (value : String)
  /-- The phase opens before the one before it closes. -/
  | opensBeforePreviousCloses (phase : Phase)
  | closesBeforeOpens (phase : Phase)
  | missingCandidates
  | tooFewCandidates (found required : Nat)
  /-- The candidate at an index, counted from zero, has no name. -/
  | blankCandidateName (index : Nat)
  | missingTrustees
  | tooFewTrustees (found required : Nat)
  /-- The trustee at an index, counted from zero, has no name. -/
  | blankTrusteeName (index : Nat)
  | missingRegistrar
  | blankRegistrarName
  | invalidRegistrationUrl (url : String)
  | unsupportedUrlScheme (scheme : String)
  deriving DecidableEq, Repr

/-- The shortfall in words. -/
def Shortfall.message : Shortfall → String
  | missingEncryptionParameters => "the encryption parameters are not set"
  | missingName => "the election has no name"
  | missingTiming => "the election timing is not set"
  | unknownTimeZone zone => "unknown time zone " ++ Quoted.text zone
  | missingWindow phase =>
    "the " ++ phase.title ++ " window needs an opening and a closing time"
  | malformedTimestamp phase value =>
    "cannot read the time " ++ Quoted.text value ++ " of the " ++ phase.title ++ " window"
  | opensBeforePreviousCloses phase =>
    "the " ++ phase.title ++ " window opens before the previous phase closes"
  | closesBeforeOpens phase => "the " ++ phase.title ++ " window closes before it opens"
  | missingCandidates => "no candidates are listed"
  | tooFewCandidates found required =>
    Decimal.text found ++ " candidate(s) listed, at least " ++ Decimal.text required
      ++ " are required"
  | blankCandidateName index => "candidate #" ++ Decimal.text (index + 1) ++ " has no name"
  | missingTrustees => "no trustees are listed"
  | tooFewTrustees found required =>
    Decimal.text found ++ " trustee(s) listed, at least " ++ Decimal.text required
      ++ " are required"
  | blankTrusteeName index => "trustee #" ++ Decimal.text (index + 1) ++ " has no name"
  | missingRegistrar => "the registrar is not configured"
  | blankRegistrarName => "the registrar has no name"
  | invalidRegistrationUrl url =>
    "the registration URL " ++ Quoted.text url ++ " is not a valid URL"
  | unsupportedUrlScheme scheme =>
    "the registration URL must use http or https, not " ++ Quoted.text scheme

end ElectionReadiness
