import ElectionReadiness.Json.Pretty
import ElectionReadiness.Json.Record
import ElectionReadiness.SetupFile.Basic

/-!
# Writing setup files

A setup file is written with all fields of all records, in their order, and null for
those that are missing.
-/

set_option autoImplicit false

namespace ElectionReadiness

open Json
open Json.Value

/-- Encryption parameters as a value. -/
def EncryptionParameters.value (parameters : EncryptionParameters) : Value :=
  ofFields FieldNames.parameters
    [.string parameters.g, .string parameters.p, .string parameters.q]

/-- A public key as a value. -/
def PublicKey.value (key : PublicKey) : Value := ofFields FieldNames.publicKey [.string key.y]

/-- A proof of a key as a value. -/
def KeyProof.value (proof : KeyProof) : Value :=
  ofFields FieldNames.keyProof [.string proof.m, .string proof.c, .string proof.r]

/-- A signature as a value. -/
def Signature.value (signature : Signature) : Value :=
  ofFields FieldNames.signature [.string signature.c, .string signature.r]

/-- A window as a value. -/
def Window.value (window : Window) : Value :=
  ofFields FieldNames.window [ofOption .string window.opens, ofOption .string window.closes]

/-- A timing as a value. -/
def TimingEntry.value (entry : TimingEntry) : Value :=
  ofFields FieldNames.timing [
    ofOption .string entry.timeZone,
    ofOption Window.value entry.parameterConfirmation,
    ofOption Window.value entry.voterRegistration,
    ofOption Window.value entry.voteCasting,
    ofOption Window.value entry.tallyDecryption]

/-- A candidate as a value. -/
def CandidateEntry.value (entry : CandidateEntry) : Value :=
  ofFields FieldNames.candidate
    [ofOption .string entry.candidateId, ofOption .string entry.name]

/-- A trustee as a value. -/
def TrusteeEntry.value (entry : TrusteeEntry) : Value :=
  ofFields FieldNames.trustee [
    ofOption .string entry.trusteeId,
    ofOption .string entry.name,
    ofOption PublicKey.value entry.verificationKey,
    ofOption (ofList .string) entry.publicExponents,
    ofOption Signature.value entry.signature]

/-- A registrar as a value. -/
def RegistrarEntry.value (entry : RegistrarEntry) : Value :=
  ofFields FieldNames.registrar [
    ofOption .string entry.registrarId,
    ofOption .string entry.name,
    ofOption PublicKey.value entry.verificationKey,
    ofOption PublicKey.value entry.encryptionKey,
    ofOption KeyProof.value entry.encryptionProof,
    ofOption .string entry.eligibilityDataUrl,
    ofOption .string entry.eligibilityDataHash,
    ofOption .string entry.registrationUrl]

namespace SetupFile

/-- A setup file as a value. -/
def value (file : SetupFile) : Value :=
  ofFields FieldNames.setupFile [
    ofOption .string file.name,
    ofOption EncryptionParameters.value file.encryptionSharedParams,
    ofOption (fun count => .number (.whole count.toNat)) file.trusteesRequired,
    ofOption RegistrarEntry.value file.registrar,
    ofOption (ofList CandidateEntry.value) file.candidates,
    ofOption (ofList TrusteeEntry.value) file.trustees,
    ofOption TimingEntry.value file.timing]

/-- A setup file as it is written. -/
def text (file : SetupFile) : String := file.value.pretty

end SetupFile

end ElectionReadiness
