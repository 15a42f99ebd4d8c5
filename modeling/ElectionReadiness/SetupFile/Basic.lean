import ElectionReadiness.Setup.Document

/-!
# Setup files

What a setup file says.  Nearly every field may be missing while the setup is in
progress; keys, signatures and parameters are whole or not there at all.  A file says
more than the stages look at, and all of it is kept.  `SetupFile.setup` is the setup
that a file describes, where missing texts are empty.
-/

set_option autoImplicit false

namespace ElectionReadiness

/-- A proof of knowing the secret of a key. -/
structure KeyProof where
  m : String
  c : String
  r : String
  deriving DecidableEq, Repr

/-- The timing in a file. -/
structure TimingEntry where
  timeZone : Option String := none
  parameterConfirmation : Option Window := none
  voterRegistration : Option Window := none
  voteCasting : Option Window := none
  tallyDecryption : Option Window := none
  deriving DecidableEq, Repr

/-- A candidate in a file. -/
structure CandidateEntry where
  candidateId : Option String := none
  name : Option String := none
  deriving DecidableEq, Repr

/-- A trustee in a file. -/
structure TrusteeEntry where
  trusteeId : Option String := none
  name : Option String := none
  verificationKey : Option PublicKey := none
  publicExponents : Option (List String) := none
  signature : Option Signature := none
  deriving DecidableEq, Repr

/-- The registrar in a file. -/
structure RegistrarEntry where
  registrarId : Option String := none
  name : Option String := none
  verificationKey : Option PublicKey := none
  encryptionKey : Option PublicKey := none
  encryptionProof : Option KeyProof := none
  eligibilityDataUrl : Option String := none
  eligibilityDataHash : Option String := none
  registrationUrl : Option String := none
  deriving DecidableEq, Repr

/-- What a setup file says. -/
structure SetupFile where
  name : Option String := none
  encryptionSharedParams : Option EncryptionParameters := none
  trusteesRequired : Option UInt32 := none
  registrar : Option RegistrarEntry := none
  candidates : Option (List CandidateEntry) := none
  trustees : Option (List TrusteeEntry) := none
  timing : Option TimingEntry := none
  deriving DecidableEq, Repr

/-! ## The setup that a file describes -/

/-- The timing of an entry. -/
def TimingEntry.timing (entry : TimingEntry) : Timing where
  timeZone := entry.timeZone.getD ""
  parameterConfirmation := entry.parameterConfirmation
  voterRegistration := entry.voterRegistration
  voteCasting := entry.voteCasting
  tallyDecryption := entry.tallyDecryption

/-- The candidate of an entry. -/
def CandidateEntry.candidate (entry : CandidateEntry) : Candidate where
  id := entry.candidateId.getD ""
  name := entry.name.getD ""

/-- The trustee of an entry. -/
def TrusteeEntry.trustee (entry : TrusteeEntry) : Trustee where
  id := entry.trusteeId.getD ""
  name := entry.name.getD ""
  verificationKey := entry.verificationKey
  publicExponents := entry.publicExponents.getD []
  signature := entry.signature

/-- The registrar of an entry. -/
def RegistrarEntry.registrar (entry : RegistrarEntry) : Registrar where
  id := entry.registrarId.getD ""
  name := entry.name.getD ""
  registrationUrl := entry.registrationUrl
  verificationKey := entry.verificationKey
  eligibilityDataUrl := entry.eligibilityDataUrl
  eligibilityDataHash := entry.eligibilityDataHash

/-- The setup that a file describes. -/
def SetupFile.setup (file : SetupFile) : Setup where
  name := file.name.getD ""
  encryptionParameters := file.encryptionSharedParams
  timing := file.timing.map TimingEntry.timing
  candidates := file.candidates.map (·.map CandidateEntry.candidate)
  trustees := file.trustees.map (·.map TrusteeEntry.trustee)
  registrar := file.registrar.map RegistrarEntry.registrar

/-! ## The names of the fields, in order -/

namespace FieldNames

def parameters : List String := ["g", "p", "q"]

def publicKey : List String := ["y"]

def keyProof : List String := ["m", "c", "r"]

def signature : List String := ["c", "r"]

def window : List String := ["opens", "closes"]

def timing : List String :=
  ["timeZone", "parameterConfirmation", "voterRegistration", "voteCasting", "tallyDecryption"]

def candidate : List String := ["candidateId", "name"]

def trustee : List String :=
  ["trusteeId", "name", "verificationKey", "publicExponents", "signature"]

def registrar : List String :=
  ["registrarId", "name", "verificationKey", "encryptionKey", "encryptionProof",
    "eligibilityDataURL", "eligibilityDataHash", "registrationURL"]

def setupFile : List String :=
  ["name", "encryptionSharedParams", "trusteesRequired", "registrar", "candidates", "trustees",
    "timing"]

end FieldNames

end ElectionReadiness
