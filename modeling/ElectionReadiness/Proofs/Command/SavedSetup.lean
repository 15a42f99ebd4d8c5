import ElectionReadiness.Proofs.Command.Outcome
import ElectionReadiness.Proofs.Command.WrittenFile
import ElectionReadiness.Proofs.SetupFile.RoundTrip

/-!
# Saving a setup loses nothing

Whatever a setup file says, saving it and reading it again gives the same
(`SetupFile.saving_loses_nothing`): as texts, so that saving what was read from any text
settles the text for good, and in a folder, where the saved file can be read.
-/

set_option autoImplicit false

namespace ElectionReadiness.SetupFile

open Command

/-- What is saved after a text was read; none if the text is no setup file. -/
def resave? (text : String) : Option String := (read? text).map SetupFile.text

/-- **What is saved is read back as exactly what was saved**, from its text and from the
folder it was saved in.  So saving what was read from a text gives one that says the same,
describes the same setup and is saved as itself. -/
theorem saving_loses_nothing :
    (∀ file : SetupFile, read? file.text = some file) ∧
      (∀ text saved, resave? text = some saved →
        read? saved = read? text ∧ (read? saved).map setup = (read? text).map setup ∧
          resave? saved = some saved) ∧
      ∀ (folder : Folder) (path : String) (file : SetupFile) (after : Session),
        Session.perform (saveSetup Session.environment path file) folder = (.ok (), after) →
        (Session.perform (readSetup Session.environment path) after.folder).1 =
          .ok (some file) := by
  refine ⟨read?_text, ?_, ?_⟩
  · intro text saved resaved
    obtain ⟨file, reads, rfl⟩ := Option.map_eq_some_iff.mp resaved
    have again := read?_text file
    refine ⟨again.trans reads.symm, by rw [again, reads], ?_⟩
    rw [resave?, again, Option.map_some]
  · intro folder path file after saves
    rw [Session.perform_eq_outcome, Session.outcome_saveSetup] at saves
    cases writes : folder.write? path (.text file.text) with
    | none => simp [writes] at saves
    | some written =>
        simp only [writes, Prod.mk.injEq, true_and] at saves
        subst saves
        obtain ⟨present, holds⟩ := Folder.readText?_of_write? writes
        rw [Session.perform_eq_outcome,
          Session.outcome_readSetup { folder := written } present holds (read?_text file)]

/-- A file with a quotation mark, a backslash, controls and a character beyond the first plane
in its name, and the largest number of trustees. -/
def oddlyNamed : SetupFile := { name := some "\"\\\x01\n😀", trusteesRequired := some 4294967295 }

/-- The same file in another spelling. -/
def oddlySpelled : String :=
  "\x7b \"trusteesRequired\":4294967295,\"name\" : \"\\u0022\\u005C\\u0001\\n\\ud83d\\uDE00\"\x7d"

/-- A file in another spelling is saved in one that stays, and a folder keeps it. -/
theorem oddlyNamed_settles :
    (resave? oddlySpelled = some oddlyNamed.text ∧
        resave? oddlyNamed.text = some oddlyNamed.text) ∧
      ∃ after,
        Session.perform (saveSetup Session.environment "election.json" oddlyNamed) {} =
          (.ok (), after) ∧
        (Session.perform (readSetup Session.environment "election.json") after.folder).1 =
          .ok (some oddlyNamed) := by
  have reads : read? oddlySpelled = some oddlyNamed := by decide +kernel
  have resaved : resave? oddlySpelled = some oddlyNamed.text := by
    rw [resave?, reads, Option.map_some]
  obtain ⟨written, writes⟩ := Option.isSome_iff_exists.mp
    (by decide +kernel :
      (Folder.write? {} "election.json" (.text oddlyNamed.text)).isSome = true)
  have saves : Session.perform (saveSetup Session.environment "election.json" oddlyNamed) {} =
      (.ok (), { folder := written }) := by
    rw [Session.perform_eq_outcome, Session.outcome_saveSetup]
    simp only [writes]
  exact ⟨⟨resaved, (saving_loses_nothing.2.1 _ _ resaved).2.2⟩, _, saves,
    saving_loses_nothing.2.2 _ _ _ _ saves⟩

end ElectionReadiness.SetupFile
