import ElectionReadiness.Json.Record
import ElectionReadiness.SetupFile.Basic

/-!
# Reading setup files

A setup file is a JSON text of nested records.  A text that is no JSON, a field that is
given twice, a required field that is missing and a field with content of another kind
all make the whole file unreadable.
-/

set_option autoImplicit false

namespace ElectionReadiness

open Json
open Json.Tree

/-- Reads encryption parameters. -/
def EncryptionParameters.ofTree? (tree : Tree) : Option EncryptionParameters :=
  match tree.fields? FieldNames.parameters with
  | some [g, p, q] => do
    pure { g := ← required? string? g, p := ← required? string? p, q := ← required? string? q }
  | _ => none

/-- Reads a public key. -/
def PublicKey.ofTree? (tree : Tree) : Option PublicKey :=
  match tree.fields? FieldNames.publicKey with
  | some [y] => do pure { y := ← required? string? y }
  | _ => none

/-- Reads a proof of a key. -/
def KeyProof.ofTree? (tree : Tree) : Option KeyProof :=
  match tree.fields? FieldNames.keyProof with
  | some [m, c, r] => do
    pure { m := ← required? string? m, c := ← required? string? c, r := ← required? string? r }
  | _ => none

/-- Reads a signature. -/
def Signature.ofTree? (tree : Tree) : Option Signature :=
  match tree.fields? FieldNames.signature with
  | some [c, r] => do pure { c := ← required? string? c, r := ← required? string? r }
  | _ => none

/-- Reads a window. -/
def Window.ofTree? (tree : Tree) : Option Window :=
  match tree.fields? FieldNames.window with
  | some [opens, closes] => do
    pure { opens := ← optional? string? opens, closes := ← optional? string? closes }
  | _ => none

/-- Reads a timing. -/
def TimingEntry.ofTree? (tree : Tree) : Option TimingEntry :=
  match tree.fields? FieldNames.timing with
  | some [timeZone, parameterConfirmation, voterRegistration, voteCasting, tallyDecryption] => do
    pure {
      timeZone := ← optional? string? timeZone
      parameterConfirmation := ← optional? Window.ofTree? parameterConfirmation
      voterRegistration := ← optional? Window.ofTree? voterRegistration
      voteCasting := ← optional? Window.ofTree? voteCasting
      tallyDecryption := ← optional? Window.ofTree? tallyDecryption }
  | _ => none

/-- Reads a candidate. -/
def CandidateEntry.ofTree? (tree : Tree) : Option CandidateEntry :=
  match tree.fields? FieldNames.candidate with
  | some [candidateId, name] => do
    pure { candidateId := ← optional? string? candidateId, name := ← optional? string? name }
  | _ => none

/-- Reads a trustee. -/
def TrusteeEntry.ofTree? (tree : Tree) : Option TrusteeEntry :=
  match tree.fields? FieldNames.trustee with
  | some [trusteeId, name, verificationKey, publicExponents, signature] => do
    pure {
      trusteeId := ← optional? string? trusteeId
      name := ← optional? string? name
      verificationKey := ← optional? PublicKey.ofTree? verificationKey
      publicExponents := ← optional? (list? string?) publicExponents
      signature := ← optional? Signature.ofTree? signature }
  | _ => none

/-- Reads a registrar. -/
def RegistrarEntry.ofTree? (tree : Tree) : Option RegistrarEntry :=
  match tree.fields? FieldNames.registrar with
  | some [registrarId, name, verificationKey, encryptionKey, encryptionProof,
      eligibilityDataUrl, eligibilityDataHash, registrationUrl] => do
    pure {
      registrarId := ← optional? string? registrarId
      name := ← optional? string? name
      verificationKey := ← optional? PublicKey.ofTree? verificationKey
      encryptionKey := ← optional? PublicKey.ofTree? encryptionKey
      encryptionProof := ← optional? KeyProof.ofTree? encryptionProof
      eligibilityDataUrl := ← optional? string? eligibilityDataUrl
      eligibilityDataHash := ← optional? string? eligibilityDataHash
      registrationUrl := ← optional? string? registrationUrl }
  | _ => none

namespace SetupFile

/-- Reads a setup file from its tree. -/
def ofTree? (tree : Tree) : Option SetupFile :=
  match tree.fields? FieldNames.setupFile with
  | some [name, encryptionSharedParams, trusteesRequired, registrar, candidates, trustees,
      timing] => do
    pure {
      name := ← optional? string? name
      encryptionSharedParams :=
        ← optional? EncryptionParameters.ofTree? encryptionSharedParams
      trusteesRequired := ← optional? word? trusteesRequired
      registrar := ← optional? RegistrarEntry.ofTree? registrar
      candidates := ← optional? (list? CandidateEntry.ofTree?) candidates
      trustees := ← optional? (list? TrusteeEntry.ofTree?) trustees
      timing := ← optional? TimingEntry.ofTree? timing }
  | _ => none

/-- Reads a setup file, none if the text is not one. -/
def read? (text : String) : Option SetupFile :=
  ((Token.scanAll? text.toList).bind Tree.ofTokens?).bind ofTree?

end SetupFile

end ElectionReadiness
