import ElectionReadiness.Setup.Phase

/-!
# The setup of an election

A setup is filled in piece by piece, so each of its sections may still be missing.
It keeps what it is given as text: whether the text means anything is for the
stages to judge.
-/

set_option autoImplicit false

namespace ElectionReadiness

/-- The group that all encryption of the election shares, as encoded numbers. -/
structure EncryptionParameters where
  g : String
  p : String
  q : String
  deriving DecidableEq, Repr

/-- The time during which a phase is open, as civil times of the election's zone. -/
structure Window where
  opens : Option String := none
  closes : Option String := none
  deriving DecidableEq, Repr

/-- The zone of the election and the windows of its phases. -/
structure Timing where
  timeZone : String := ""
  parameterConfirmation : Option Window := none
  voterRegistration : Option Window := none
  voteCasting : Option Window := none
  tallyDecryption : Option Window := none
  deriving DecidableEq, Repr

/-- An encoded public key. -/
structure PublicKey where
  y : String
  deriving DecidableEq, Repr

/-- An encoded signature. -/
structure Signature where
  c : String
  r : String
  deriving DecidableEq, Repr

/-- A person or party to vote for. -/
structure Candidate where
  id : String := ""
  name : String := ""
  deriving DecidableEq, Repr

/-- A holder of a share of the election's key.  The key and what vouches for it
come later than the name. -/
structure Trustee where
  id : String := ""
  name : String := ""
  verificationKey : Option PublicKey := none
  publicExponents : List String := []
  signature : Option Signature := none
  deriving DecidableEq, Repr

/-- The office where voters register. -/
structure Registrar where
  id : String := ""
  name : String := ""
  registrationUrl : Option String := none
  verificationKey : Option PublicKey := none
  eligibilityDataUrl : Option String := none
  eligibilityDataHash : Option String := none
  deriving DecidableEq, Repr

/-- The setup of an election. -/
structure Setup where
  name : String := ""
  encryptionParameters : Option EncryptionParameters := none
  timing : Option Timing := none
  candidates : Option (List Candidate) := none
  trustees : Option (List Trustee) := none
  registrar : Option Registrar := none
  deriving DecidableEq, Repr

namespace Timing

/-- The window of a phase. -/
def window (timing : Timing) : Phase → Option Window
  | .parameterConfirmation => timing.parameterConfirmation
  | .voterRegistration => timing.voterRegistration
  | .voteCasting => timing.voteCasting
  | .tallyDecryption => timing.tallyDecryption

/-- The timing with another window for a phase, or with none. -/
def setWindow (timing : Timing) (phase : Phase) (window : Option Window) : Timing :=
  match phase with
  | .parameterConfirmation => { timing with parameterConfirmation := window }
  | .voterRegistration => { timing with voterRegistration := window }
  | .voteCasting => { timing with voteCasting := window }
  | .tallyDecryption => { timing with tallyDecryption := window }

@[simp]
theorem window_setWindow_self (timing : Timing) (phase : Phase) (window : Option Window) :
    (timing.setWindow phase window).window phase = window := by
  cases phase <;> rfl

theorem window_setWindow_of_ne (timing : Timing) {phase other : Phase} (window : Option Window)
    (different : other ≠ phase) :
    (timing.setWindow phase window).window other = timing.window other := by
  cases phase <;> cases other <;> first | rfl | exact absurd rfl different

@[simp]
theorem timeZone_setWindow (timing : Timing) (phase : Phase) (window : Option Window) :
    (timing.setWindow phase window).timeZone = timing.timeZone := by
  cases phase <;> rfl

end Timing

end ElectionReadiness
