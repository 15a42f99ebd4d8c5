import ElectionReadiness.Proofs.Json.WrittenRecord
import ElectionReadiness.SetupFile.Reader
import ElectionReadiness.SetupFile.Writer

/-!
# A saved setup file is read back

Every record of a setup file reads back field by field, the inner records before those that
hold them, and so does the whole file (`SetupFile.readsBack`).  What is written is therefore
read as exactly what was written, whatever was read before.
-/

set_option autoImplicit false

namespace ElectionReadiness

open Json

/-! ## Records whose fields must be there -/

theorem EncryptionParameters.readsBack :
    ReadsBack EncryptionParameters.value EncryptionParameters.ofTree? := by
  intro parameters
  obtain ⟨_, gSpells, gReads⟩ := readsBack_string.required parameters.g
  obtain ⟨_, pSpells, pReads⟩ := readsBack_string.required parameters.p
  obtain ⟨_, qSpells, qReads⟩ := readsBack_string.required parameters.q
  obtain ⟨tree, spells, notNull, fields⟩ :=
    exists_record (by decide : FieldNames.parameters.Nodup)
      (.cons gSpells (.cons pSpells (.cons qSpells .nil))) rfl
  refine ⟨tree, spells, notNull, ?_⟩
  simp only [EncryptionParameters.ofTree?, fields, List.map_cons, List.map_nil, gReads, pReads,
    qReads]
  rfl

theorem PublicKey.readsBack : ReadsBack PublicKey.value PublicKey.ofTree? := by
  intro key
  obtain ⟨_, ySpells, yReads⟩ := readsBack_string.required key.y
  obtain ⟨tree, spells, notNull, fields⟩ :=
    exists_record (by decide : FieldNames.publicKey.Nodup) (.cons ySpells .nil) rfl
  refine ⟨tree, spells, notNull, ?_⟩
  simp only [PublicKey.ofTree?, fields, List.map_cons, List.map_nil, yReads]
  rfl

theorem KeyProof.readsBack : ReadsBack KeyProof.value KeyProof.ofTree? := by
  intro proof
  obtain ⟨_, mSpells, mReads⟩ := readsBack_string.required proof.m
  obtain ⟨_, cSpells, cReads⟩ := readsBack_string.required proof.c
  obtain ⟨_, rSpells, rReads⟩ := readsBack_string.required proof.r
  obtain ⟨tree, spells, notNull, fields⟩ :=
    exists_record (by decide : FieldNames.keyProof.Nodup)
      (.cons mSpells (.cons cSpells (.cons rSpells .nil))) rfl
  refine ⟨tree, spells, notNull, ?_⟩
  simp only [KeyProof.ofTree?, fields, List.map_cons, List.map_nil, mReads, cReads, rReads]
  rfl

theorem Signature.readsBack : ReadsBack Signature.value Signature.ofTree? := by
  intro signature
  obtain ⟨_, cSpells, cReads⟩ := readsBack_string.required signature.c
  obtain ⟨_, rSpells, rReads⟩ := readsBack_string.required signature.r
  obtain ⟨tree, spells, notNull, fields⟩ :=
    exists_record (by decide : FieldNames.signature.Nodup)
      (.cons cSpells (.cons rSpells .nil)) rfl
  refine ⟨tree, spells, notNull, ?_⟩
  simp only [Signature.ofTree?, fields, List.map_cons, List.map_nil, cReads, rReads]
  rfl

/-! ## Records whose fields may be missing -/

theorem Window.readsBack : ReadsBack Window.value Window.ofTree? := by
  intro window
  obtain ⟨_, opensSpells, opensReads⟩ := readsBack_string.optional window.opens
  obtain ⟨_, closesSpells, closesReads⟩ := readsBack_string.optional window.closes
  obtain ⟨tree, spells, notNull, fields⟩ :=
    exists_record (by decide : FieldNames.window.Nodup)
      (.cons opensSpells (.cons closesSpells .nil)) rfl
  refine ⟨tree, spells, notNull, ?_⟩
  simp only [Window.ofTree?, fields, List.map_cons, List.map_nil, opensReads, closesReads]
  rfl

theorem TimingEntry.readsBack : ReadsBack TimingEntry.value TimingEntry.ofTree? := by
  intro entry
  obtain ⟨_, zoneSpells, zoneReads⟩ := readsBack_string.optional entry.timeZone
  obtain ⟨_, confirmationSpells, confirmationReads⟩ :=
    Window.readsBack.optional entry.parameterConfirmation
  obtain ⟨_, registrationSpells, registrationReads⟩ :=
    Window.readsBack.optional entry.voterRegistration
  obtain ⟨_, castingSpells, castingReads⟩ := Window.readsBack.optional entry.voteCasting
  obtain ⟨_, decryptionSpells, decryptionReads⟩ :=
    Window.readsBack.optional entry.tallyDecryption
  obtain ⟨tree, spells, notNull, fields⟩ :=
    exists_record (by decide : FieldNames.timing.Nodup)
      (.cons zoneSpells (.cons confirmationSpells (.cons registrationSpells
        (.cons castingSpells (.cons decryptionSpells .nil))))) rfl
  refine ⟨tree, spells, notNull, ?_⟩
  simp only [TimingEntry.ofTree?, fields, List.map_cons, List.map_nil, zoneReads,
    confirmationReads, registrationReads, castingReads, decryptionReads]
  rfl

theorem CandidateEntry.readsBack : ReadsBack CandidateEntry.value CandidateEntry.ofTree? := by
  intro entry
  obtain ⟨_, idSpells, idReads⟩ := readsBack_string.optional entry.candidateId
  obtain ⟨_, nameSpells, nameReads⟩ := readsBack_string.optional entry.name
  obtain ⟨tree, spells, notNull, fields⟩ :=
    exists_record (by decide : FieldNames.candidate.Nodup)
      (.cons idSpells (.cons nameSpells .nil)) rfl
  refine ⟨tree, spells, notNull, ?_⟩
  simp only [CandidateEntry.ofTree?, fields, List.map_cons, List.map_nil, idReads, nameReads]
  rfl

theorem TrusteeEntry.readsBack : ReadsBack TrusteeEntry.value TrusteeEntry.ofTree? := by
  intro entry
  obtain ⟨_, idSpells, idReads⟩ := readsBack_string.optional entry.trusteeId
  obtain ⟨_, nameSpells, nameReads⟩ := readsBack_string.optional entry.name
  obtain ⟨_, keySpells, keyReads⟩ := PublicKey.readsBack.optional entry.verificationKey
  obtain ⟨_, exponentsSpells, exponentsReads⟩ :=
    readsBack_string.list.optional entry.publicExponents
  obtain ⟨_, signatureSpells, signatureReads⟩ := Signature.readsBack.optional entry.signature
  obtain ⟨tree, spells, notNull, fields⟩ :=
    exists_record (by decide : FieldNames.trustee.Nodup)
      (.cons idSpells (.cons nameSpells (.cons keySpells
        (.cons exponentsSpells (.cons signatureSpells .nil))))) rfl
  refine ⟨tree, spells, notNull, ?_⟩
  simp only [TrusteeEntry.ofTree?, fields, List.map_cons, List.map_nil, idReads, nameReads,
    keyReads, exponentsReads, signatureReads]
  rfl

theorem RegistrarEntry.readsBack : ReadsBack RegistrarEntry.value RegistrarEntry.ofTree? := by
  intro entry
  obtain ⟨_, idSpells, idReads⟩ := readsBack_string.optional entry.registrarId
  obtain ⟨_, nameSpells, nameReads⟩ := readsBack_string.optional entry.name
  obtain ⟨_, keySpells, keyReads⟩ := PublicKey.readsBack.optional entry.verificationKey
  obtain ⟨_, encryptionSpells, encryptionReads⟩ :=
    PublicKey.readsBack.optional entry.encryptionKey
  obtain ⟨_, proofSpells, proofReads⟩ := KeyProof.readsBack.optional entry.encryptionProof
  obtain ⟨_, dataSpells, dataReads⟩ := readsBack_string.optional entry.eligibilityDataUrl
  obtain ⟨_, hashSpells, hashReads⟩ := readsBack_string.optional entry.eligibilityDataHash
  obtain ⟨_, urlSpells, urlReads⟩ := readsBack_string.optional entry.registrationUrl
  obtain ⟨tree, spells, notNull, fields⟩ :=
    exists_record (by decide : FieldNames.registrar.Nodup)
      (.cons idSpells (.cons nameSpells (.cons keySpells (.cons encryptionSpells
        (.cons proofSpells (.cons dataSpells (.cons hashSpells (.cons urlSpells .nil)))))))) rfl
  refine ⟨tree, spells, notNull, ?_⟩
  simp only [RegistrarEntry.ofTree?, fields, List.map_cons, List.map_nil, idReads, nameReads,
    keyReads, encryptionReads, proofReads, dataReads, hashReads, urlReads]
  rfl

namespace SetupFile

theorem readsBack : ReadsBack SetupFile.value SetupFile.ofTree? := by
  intro file
  obtain ⟨_, nameSpells, nameReads⟩ := readsBack_string.optional file.name
  obtain ⟨_, parametersSpells, parametersReads⟩ :=
    EncryptionParameters.readsBack.optional file.encryptionSharedParams
  obtain ⟨_, countSpells, countReads⟩ := readsBack_word.optional file.trusteesRequired
  obtain ⟨_, registrarSpells, registrarReads⟩ := RegistrarEntry.readsBack.optional file.registrar
  obtain ⟨_, candidatesSpells, candidatesReads⟩ :=
    CandidateEntry.readsBack.list.optional file.candidates
  obtain ⟨_, trusteesSpells, trusteesReads⟩ :=
    TrusteeEntry.readsBack.list.optional file.trustees
  obtain ⟨_, timingSpells, timingReads⟩ := TimingEntry.readsBack.optional file.timing
  obtain ⟨tree, spells, notNull, fields⟩ :=
    exists_record (by decide : FieldNames.setupFile.Nodup)
      (.cons nameSpells (.cons parametersSpells (.cons countSpells (.cons registrarSpells
        (.cons candidatesSpells (.cons trusteesSpells (.cons timingSpells .nil))))))) rfl
  refine ⟨tree, spells, notNull, ?_⟩
  simp only [SetupFile.ofTree?, fields, List.map_cons, List.map_nil, nameReads, parametersReads,
    countReads, registrarReads, candidatesReads, trusteesReads, timingReads]
  rfl

/-- The text of a file is read as the file. -/
theorem read?_text (file : SetupFile) : read? file.text = some file := by
  obtain ⟨tree, spells, _, reads⟩ := readsBack file
  rw [read?, SetupFile.text, ofTokens?_pretty spells, Option.bind_some, reads]

end SetupFile

end ElectionReadiness
