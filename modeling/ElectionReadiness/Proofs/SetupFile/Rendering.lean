import ElectionReadiness.Proofs.Json.AssembledTree
import ElectionReadiness.Proofs.Json.RenderedRecord
import ElectionReadiness.SetupFile.Reader

/-!
# How setup files may be rendered

The trees that render each record of a setup file, the inner records before those that hold
them, with the names of the fields in their order.  Reading a record from a tree gives exactly
the record that the tree renders, and so does reading the whole file from a text
(`SetupFile.read?_eq_some_iff`).
-/

set_option autoImplicit false

namespace ElectionReadiness

open Json

/-! ## Records whose fields must be there -/

/-- Encryption parameters are rendered by a tree. -/
def EncryptionParameters.IsRenderedBy (parameters : EncryptionParameters) : Tree → Prop :=
  Tree.IsRecord [
    .required "g" Tree.IsString parameters.g,
    .required "p" Tree.IsString parameters.p,
    .required "q" Tree.IsString parameters.q]

theorem EncryptionParameters.reads :
    Reads EncryptionParameters.ofTree? EncryptionParameters.IsRenderedBy where
  reads_iff := by
    intro tree parameters
    constructor
    · intro read
      unfold EncryptionParameters.ofTree? at read
      split at read
      · next found =>
        simp only [Option.bind_eq_bind, Option.bind_eq_some_iff, Option.pure_def,
          Option.some.injEq] at read
        obtain ⟨_, g, _, p, _, q, rfl⟩ := read
        exact Tree.isRecord_iff.mpr ⟨_, found, .cons (reads_string.required.mp g)
          (.cons (reads_string.required.mp p) (.cons (reads_string.required.mp q) .nil))⟩
      · cases read
    · intro rendered
      obtain ⟨_, found, _ | ⟨g, _ | ⟨p, _ | ⟨q, ⟨⟩⟩⟩⟩⟩ := Tree.isRecord_iff.mp rendered
      change tree.fields? FieldNames.parameters = _ at found
      simp only [EncryptionParameters.ofTree?, found, reads_string.required.mpr g,
        reads_string.required.mpr p, reads_string.required.mpr q]
      rfl
  null := rfl

/-- A public key is rendered by a tree. -/
def PublicKey.IsRenderedBy (key : PublicKey) : Tree → Prop :=
  Tree.IsRecord [.required "y" Tree.IsString key.y]

theorem PublicKey.reads : Reads PublicKey.ofTree? PublicKey.IsRenderedBy where
  reads_iff := by
    intro tree key
    constructor
    · intro read
      unfold PublicKey.ofTree? at read
      split at read
      · next found =>
        simp only [Option.bind_eq_bind, Option.bind_eq_some_iff, Option.pure_def,
          Option.some.injEq] at read
        obtain ⟨_, y, rfl⟩ := read
        exact Tree.isRecord_iff.mpr ⟨_, found, .cons (reads_string.required.mp y) .nil⟩
      · cases read
    · intro rendered
      obtain ⟨_, found, _ | ⟨y, ⟨⟩⟩⟩ := Tree.isRecord_iff.mp rendered
      change tree.fields? FieldNames.publicKey = _ at found
      simp only [PublicKey.ofTree?, found, reads_string.required.mpr y]
      rfl
  null := rfl

/-- A proof of a key is rendered by a tree. -/
def KeyProof.IsRenderedBy (proof : KeyProof) : Tree → Prop :=
  Tree.IsRecord [
    .required "m" Tree.IsString proof.m,
    .required "c" Tree.IsString proof.c,
    .required "r" Tree.IsString proof.r]

theorem KeyProof.reads : Reads KeyProof.ofTree? KeyProof.IsRenderedBy where
  reads_iff := by
    intro tree proof
    constructor
    · intro read
      unfold KeyProof.ofTree? at read
      split at read
      · next found =>
        simp only [Option.bind_eq_bind, Option.bind_eq_some_iff, Option.pure_def,
          Option.some.injEq] at read
        obtain ⟨_, m, _, c, _, r, rfl⟩ := read
        exact Tree.isRecord_iff.mpr ⟨_, found, .cons (reads_string.required.mp m)
          (.cons (reads_string.required.mp c) (.cons (reads_string.required.mp r) .nil))⟩
      · cases read
    · intro rendered
      obtain ⟨_, found, _ | ⟨m, _ | ⟨c, _ | ⟨r, ⟨⟩⟩⟩⟩⟩ := Tree.isRecord_iff.mp rendered
      change tree.fields? FieldNames.keyProof = _ at found
      simp only [KeyProof.ofTree?, found, reads_string.required.mpr m, reads_string.required.mpr c,
        reads_string.required.mpr r]
      rfl
  null := rfl

/-- A signature is rendered by a tree. -/
def Signature.IsRenderedBy (signature : Signature) : Tree → Prop :=
  Tree.IsRecord [.required "c" Tree.IsString signature.c, .required "r" Tree.IsString signature.r]

theorem Signature.reads : Reads Signature.ofTree? Signature.IsRenderedBy where
  reads_iff := by
    intro tree signature
    constructor
    · intro read
      unfold Signature.ofTree? at read
      split at read
      · next found =>
        simp only [Option.bind_eq_bind, Option.bind_eq_some_iff, Option.pure_def,
          Option.some.injEq] at read
        obtain ⟨_, c, _, r, rfl⟩ := read
        exact Tree.isRecord_iff.mpr ⟨_, found, .cons (reads_string.required.mp c)
          (.cons (reads_string.required.mp r) .nil)⟩
      · cases read
    · intro rendered
      obtain ⟨_, found, _ | ⟨c, _ | ⟨r, ⟨⟩⟩⟩⟩ := Tree.isRecord_iff.mp rendered
      change tree.fields? FieldNames.signature = _ at found
      simp only [Signature.ofTree?, found, reads_string.required.mpr c, reads_string.required.mpr r]
      rfl
  null := rfl

/-! ## Records whose fields may be missing -/

/-- A window is rendered by a tree. -/
def Window.IsRenderedBy (window : Window) : Tree → Prop :=
  Tree.IsRecord [
    .optional "opens" Tree.IsString window.opens,
    .optional "closes" Tree.IsString window.closes]

theorem Window.reads : Reads Window.ofTree? Window.IsRenderedBy where
  reads_iff := by
    intro tree window
    constructor
    · intro read
      unfold Window.ofTree? at read
      split at read
      · next found =>
        simp only [Option.bind_eq_bind, Option.bind_eq_some_iff, Option.pure_def,
          Option.some.injEq] at read
        obtain ⟨_, opens, _, closes, rfl⟩ := read
        exact Tree.isRecord_iff.mpr ⟨_, found, .cons (reads_string.optional.mp opens)
          (.cons (reads_string.optional.mp closes) .nil)⟩
      · cases read
    · intro rendered
      obtain ⟨_, found, _ | ⟨opens, _ | ⟨closes, ⟨⟩⟩⟩⟩ := Tree.isRecord_iff.mp rendered
      change tree.fields? FieldNames.window = _ at found
      simp only [Window.ofTree?, found, reads_string.optional.mpr opens,
        reads_string.optional.mpr closes]
      rfl
  null := rfl

/-- A timing is rendered by a tree. -/
def TimingEntry.IsRenderedBy (entry : TimingEntry) : Tree → Prop :=
  Tree.IsRecord [
    .optional "timeZone" Tree.IsString entry.timeZone,
    .optional "parameterConfirmation" Window.IsRenderedBy entry.parameterConfirmation,
    .optional "voterRegistration" Window.IsRenderedBy entry.voterRegistration,
    .optional "voteCasting" Window.IsRenderedBy entry.voteCasting,
    .optional "tallyDecryption" Window.IsRenderedBy entry.tallyDecryption]

theorem TimingEntry.reads : Reads TimingEntry.ofTree? TimingEntry.IsRenderedBy where
  reads_iff := by
    intro tree entry
    constructor
    · intro read
      unfold TimingEntry.ofTree? at read
      split at read
      · next found =>
        simp only [Option.bind_eq_bind, Option.bind_eq_some_iff, Option.pure_def,
          Option.some.injEq] at read
        obtain ⟨_, zone, _, confirmation, _, registration, _, casting, _, decryption, rfl⟩ := read
        exact Tree.isRecord_iff.mpr ⟨_, found, .cons (reads_string.optional.mp zone)
          (.cons (Window.reads.optional.mp confirmation)
          (.cons (Window.reads.optional.mp registration) (.cons (Window.reads.optional.mp casting)
          (.cons (Window.reads.optional.mp decryption) .nil))))⟩
      · cases read
    · intro rendered
      obtain ⟨_, found, _ | ⟨zone, _ | ⟨confirmation, _ | ⟨registration, _ |
        ⟨casting, _ | ⟨decryption, ⟨⟩⟩⟩⟩⟩⟩⟩ := Tree.isRecord_iff.mp rendered
      change tree.fields? FieldNames.timing = _ at found
      simp only [TimingEntry.ofTree?, found, reads_string.optional.mpr zone,
        Window.reads.optional.mpr confirmation, Window.reads.optional.mpr registration,
        Window.reads.optional.mpr casting, Window.reads.optional.mpr decryption]
      rfl
  null := rfl

/-- A candidate is rendered by a tree. -/
def CandidateEntry.IsRenderedBy (entry : CandidateEntry) : Tree → Prop :=
  Tree.IsRecord [
    .optional "candidateId" Tree.IsString entry.candidateId,
    .optional "name" Tree.IsString entry.name]

theorem CandidateEntry.reads : Reads CandidateEntry.ofTree? CandidateEntry.IsRenderedBy where
  reads_iff := by
    intro tree entry
    constructor
    · intro read
      unfold CandidateEntry.ofTree? at read
      split at read
      · next found =>
        simp only [Option.bind_eq_bind, Option.bind_eq_some_iff, Option.pure_def,
          Option.some.injEq] at read
        obtain ⟨_, id, _, name, rfl⟩ := read
        exact Tree.isRecord_iff.mpr ⟨_, found, .cons (reads_string.optional.mp id)
          (.cons (reads_string.optional.mp name) .nil)⟩
      · cases read
    · intro rendered
      obtain ⟨_, found, _ | ⟨id, _ | ⟨name, ⟨⟩⟩⟩⟩ := Tree.isRecord_iff.mp rendered
      change tree.fields? FieldNames.candidate = _ at found
      simp only [CandidateEntry.ofTree?, found, reads_string.optional.mpr id,
        reads_string.optional.mpr name]
      rfl
  null := rfl

/-- A trustee is rendered by a tree. -/
def TrusteeEntry.IsRenderedBy (entry : TrusteeEntry) : Tree → Prop :=
  Tree.IsRecord [
    .optional "trusteeId" Tree.IsString entry.trusteeId,
    .optional "name" Tree.IsString entry.name,
    .optional "verificationKey" PublicKey.IsRenderedBy entry.verificationKey,
    .optional "publicExponents" (Tree.IsList Tree.IsString) entry.publicExponents,
    .optional "signature" Signature.IsRenderedBy entry.signature]

theorem TrusteeEntry.reads : Reads TrusteeEntry.ofTree? TrusteeEntry.IsRenderedBy where
  reads_iff := by
    intro tree entry
    constructor
    · intro read
      unfold TrusteeEntry.ofTree? at read
      split at read
      · next found =>
        simp only [Option.bind_eq_bind, Option.bind_eq_some_iff, Option.pure_def,
          Option.some.injEq] at read
        obtain ⟨_, id, _, name, _, key, _, exponents, _, signature, rfl⟩ := read
        exact Tree.isRecord_iff.mpr ⟨_, found, .cons (reads_string.optional.mp id)
          (.cons (reads_string.optional.mp name) (.cons (PublicKey.reads.optional.mp key)
          (.cons (reads_string.list.optional.mp exponents)
          (.cons (Signature.reads.optional.mp signature) .nil))))⟩
      · cases read
    · intro rendered
      obtain ⟨_, found, _ | ⟨id, _ | ⟨name, _ | ⟨key, _ | ⟨exponents, _ | ⟨signature, ⟨⟩⟩⟩⟩⟩⟩⟩ :=
        Tree.isRecord_iff.mp rendered
      change tree.fields? FieldNames.trustee = _ at found
      simp only [TrusteeEntry.ofTree?, found, reads_string.optional.mpr id,
        reads_string.optional.mpr name, PublicKey.reads.optional.mpr key,
        reads_string.list.optional.mpr exponents, Signature.reads.optional.mpr signature]
      rfl
  null := rfl

/-- A registrar is rendered by a tree. -/
def RegistrarEntry.IsRenderedBy (entry : RegistrarEntry) : Tree → Prop :=
  Tree.IsRecord [
    .optional "registrarId" Tree.IsString entry.registrarId,
    .optional "name" Tree.IsString entry.name,
    .optional "verificationKey" PublicKey.IsRenderedBy entry.verificationKey,
    .optional "encryptionKey" PublicKey.IsRenderedBy entry.encryptionKey,
    .optional "encryptionProof" KeyProof.IsRenderedBy entry.encryptionProof,
    .optional "eligibilityDataURL" Tree.IsString entry.eligibilityDataUrl,
    .optional "eligibilityDataHash" Tree.IsString entry.eligibilityDataHash,
    .optional "registrationURL" Tree.IsString entry.registrationUrl]

theorem RegistrarEntry.reads : Reads RegistrarEntry.ofTree? RegistrarEntry.IsRenderedBy where
  reads_iff := by
    intro tree entry
    constructor
    · intro read
      unfold RegistrarEntry.ofTree? at read
      split at read
      · next found =>
        simp only [Option.bind_eq_bind, Option.bind_eq_some_iff, Option.pure_def,
          Option.some.injEq] at read
        obtain ⟨_, id, _, name, _, key, _, encryption, _, proof, _, data, _, hash, _, url,
          rfl⟩ := read
        exact Tree.isRecord_iff.mpr ⟨_, found, .cons (reads_string.optional.mp id)
          (.cons (reads_string.optional.mp name) (.cons (PublicKey.reads.optional.mp key)
          (.cons (PublicKey.reads.optional.mp encryption) (.cons (KeyProof.reads.optional.mp proof)
          (.cons (reads_string.optional.mp data) (.cons (reads_string.optional.mp hash)
          (.cons (reads_string.optional.mp url) .nil)))))))⟩
      · cases read
    · intro rendered
      obtain ⟨_, found, _ | ⟨id, _ | ⟨name, _ | ⟨key, _ | ⟨encryption, _ | ⟨proof, _ |
        ⟨data, _ | ⟨hash, _ | ⟨url, ⟨⟩⟩⟩⟩⟩⟩⟩⟩⟩⟩ := Tree.isRecord_iff.mp rendered
      change tree.fields? FieldNames.registrar = _ at found
      simp only [RegistrarEntry.ofTree?, found, reads_string.optional.mpr id,
        reads_string.optional.mpr name, PublicKey.reads.optional.mpr key,
        PublicKey.reads.optional.mpr encryption, KeyProof.reads.optional.mpr proof,
        reads_string.optional.mpr data, reads_string.optional.mpr hash,
        reads_string.optional.mpr url]
      rfl
  null := rfl

/-- A setup file is rendered by a tree. -/
def SetupFile.IsRenderedBy (file : SetupFile) : Tree → Prop :=
  Tree.IsRecord [
    .optional "name" Tree.IsString file.name,
    .optional "encryptionSharedParams" EncryptionParameters.IsRenderedBy
      file.encryptionSharedParams,
    .optional "trusteesRequired" Tree.IsWord file.trusteesRequired,
    .optional "registrar" RegistrarEntry.IsRenderedBy file.registrar,
    .optional "candidates" (Tree.IsList CandidateEntry.IsRenderedBy) file.candidates,
    .optional "trustees" (Tree.IsList TrusteeEntry.IsRenderedBy) file.trustees,
    .optional "timing" TimingEntry.IsRenderedBy file.timing]

theorem SetupFile.reads : Reads SetupFile.ofTree? SetupFile.IsRenderedBy where
  reads_iff := by
    intro tree file
    constructor
    · intro read
      unfold SetupFile.ofTree? at read
      split at read
      · next found =>
        simp only [Option.bind_eq_bind, Option.bind_eq_some_iff, Option.pure_def,
          Option.some.injEq] at read
        obtain ⟨_, name, _, parameters, _, count, _, registrar, _, candidates, _, trustees,
          _, timing, rfl⟩ := read
        exact Tree.isRecord_iff.mpr ⟨_, found, .cons (reads_string.optional.mp name)
          (.cons (EncryptionParameters.reads.optional.mp parameters)
          (.cons (reads_word.optional.mp count) (.cons (RegistrarEntry.reads.optional.mp registrar)
          (.cons (CandidateEntry.reads.list.optional.mp candidates)
          (.cons (TrusteeEntry.reads.list.optional.mp trustees)
          (.cons (TimingEntry.reads.optional.mp timing) .nil))))))⟩
      · cases read
    · intro rendered
      obtain ⟨_, found, _ | ⟨name, _ | ⟨parameters, _ | ⟨count, _ | ⟨registrar, _ |
        ⟨candidates, _ | ⟨trustees, _ | ⟨timing, ⟨⟩⟩⟩⟩⟩⟩⟩⟩⟩ := Tree.isRecord_iff.mp rendered
      change tree.fields? FieldNames.setupFile = _ at found
      simp only [SetupFile.ofTree?, found, reads_string.optional.mpr name,
        EncryptionParameters.reads.optional.mpr parameters, reads_word.optional.mpr count,
        RegistrarEntry.reads.optional.mpr registrar,
        CandidateEntry.reads.list.optional.mpr candidates,
        TrusteeEntry.reads.list.optional.mpr trustees, TimingEntry.reads.optional.mpr timing]
      rfl
  null := rfl

/-- **A text is read as the file that its tree renders**, and as none if there is no such
tree. -/
theorem SetupFile.read?_eq_some_iff {text : String} {file : SetupFile} :
    SetupFile.read? text = some file ↔
      ∃ tree : Tree, tree.IsText text.toList ∧ file.IsRenderedBy tree := by
  rw [SetupFile.read?, Option.bind_eq_some_iff]
  simp only [Tree.parsed_iff, SetupFile.reads.reads_iff]

end ElectionReadiness
