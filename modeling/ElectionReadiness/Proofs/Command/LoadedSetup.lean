import ElectionReadiness.Proofs.Command.Outcome
import ElectionReadiness.Proofs.SetupFile.Rendering

/-!
# Loading a setup

What a file that is there and is a text is loaded as.  However a setup is spelled, it is
loaded as itself (`SetupFile.any_spelling_is_read`).  What is loaded is what the text
renders and nothing else, and a text that renders no setup cannot be loaded
(`SetupFile.reading_is_faithful`).
-/

set_option autoImplicit false

namespace ElectionReadiness

open Json Command

/-! ## Reading a file that holds a text -/

theorem Command.Folder.isPresent_of_readText? {folder : Folder} {path text : String}
    (holds : folder.readText? path = some text) : folder.isPresent path = true := by
  unfold Folder.readText? at holds
  split at holds
  · next leads => rw [Folder.isPresent, leads]
  · cases holds

/-- A file that holds a text is loaded as what the text is read as. -/
theorem Command.Session.perform_readSetup {folder : Folder} {path text : String}
    (holds : folder.readText? path = some text) :
    (perform (readSetup environment path) folder).1 =
      match SetupFile.read? text with
      | none => .error (.parsing path)
      | some file => .ok (some file) := by
  have present := Folder.isPresent_of_readText? holds
  rw [perform_eq_outcome]
  cases reads : SetupFile.read? text with
  | some file => rw [outcome_readSetup { folder := folder } present holds reads]
  | none =>
      rw [readSetup, outcome_bind, outcome_isPresent, present]
      simp only [if_true]
      rw [outcome_bind, outcome_readText, holds]
      simp only [reads, outcome_throw]

namespace SetupFile

/-! ## Every spelling is read -/

/-- **However a setup is spelled, it is read as itself.**  Any tree that renders it may be
written in any text. -/
theorem any_spelling_is_read (file : SetupFile) (tree : Tree) (text : String)
    (rendered : file.IsRenderedBy tree) (isText : tree.IsText text.toList) :
    read? text = some file ∧
      ∀ (folder : Folder) (path : String), folder.readText? path = some text →
        (Session.perform (readSetup Session.environment path) folder).1 = .ok (some file) := by
  have reads : read? text = some file := read?_eq_some_iff.mpr ⟨tree, isText, rendered⟩
  refine ⟨reads, ?_⟩
  intro folder path holds
  rw [Session.perform_readSetup holds, reads]

/-- A setup with a name, a number of trustees and a time. -/
def halfTimed : SetupFile where
  name := some "Town Vote"
  trusteesRequired := some 2
  timing := some
    { timeZone := some "UTC", parameterConfirmation := some {},
      voteCasting := some { closes := some "😀" } }

/-- The same setup as an object with its members out of order and others between them, one of
them with half a character inside.  The timing is an array. -/
def outOfOrder : Tree := .object [
  (pieces "extra", .array [
    .number ⟨false, ['1'], [], some (false, ['9', '9', '9'])⟩,
    .object [([.unit 0xDC00], .null), ([.unit 0xDC00], .array [])]]),
  (pieces "timing", .array [
    .string (pieces "UTC"), .object [], .null,
    .array [.null, .string [.unit 0xD83D, .unit 0xDE00]], .null]),
  ([.char 'n', .char 'a', .unit 0x6D, .char 'e'], .string (pieces "Town Vote")),
  (pieces "extra", .bool true),
  (pieces "registrar", .null),
  (pieces "trusteesRequired", .number ⟨false, ['2'], [], none⟩)]

/-- The same object with blanks and escapes. -/
def outOfOrderText : String :=
  "\t\x7b\"extra\":[1e999,\x7b\"\\udc00\":null,\"\\uDC00\":[ ]\x7d],\n" ++
    "\"timing\" :[\"UTC\",\x7b\x7d,null,[null,\"\\ud83d\\uDE00\"],null],\n" ++
    "\"na\\u006De\":\"Town Vote\", \"extra\":true,\"registrar\":null,\n" ++
    "\"trusteesRequired\":2 \x7d\r\n"

/-- A setup out of order is read, from its text and from a folder. -/
theorem halfTimed_is_read :
    (halfTimed.IsRenderedBy outOfOrder ∧ outOfOrder.IsText outOfOrderText.toList) ∧
      read? outOfOrderText = some halfTimed ∧
      ∀ (folder : Folder) (path : String), folder.readText? path = some outOfOrderText →
        (Session.perform (readSetup Session.environment path) folder).1 =
          .ok (some halfTimed) := by
  have rendered : halfTimed.IsRenderedBy outOfOrder :=
    (SetupFile.reads.reads_iff _ _).mp (by decide +kernel)
  have isText : outOfOrder.IsText outOfOrderText.toList := Tree.isText_iff.mpr (by decide +kernel)
  exact ⟨⟨rendered, isText⟩, any_spelling_is_read _ _ _ rendered isText⟩

/-! ## Nothing is lost and nothing invented -/

/-- **What is read is what the text renders.**  A file is read from a text that is written for
one tree only, and this renders the file.  All other texts are refused. -/
theorem reading_is_faithful (folder : Folder) (path text : String)
    (holds : folder.readText? path = some text) :
    (∃ (file : SetupFile) (tree : Tree),
        (Session.perform (readSetup Session.environment path) folder).1 = .ok (some file) ∧
          (∀ other : Tree, other.IsText text.toList ↔ other = tree) ∧
          file.IsRenderedBy tree) ∨
      ((Session.perform (readSetup Session.environment path) folder).1 =
          .error (.parsing path) ∧
        ∀ (file : SetupFile) (tree : Tree), tree.IsText text.toList →
          ¬file.IsRenderedBy tree) := by
  rw [Session.perform_readSetup holds]
  cases reads : read? text with
  | some file =>
      obtain ⟨tree, isText, rendered⟩ := read?_eq_some_iff.mp reads
      exact .inl ⟨file, tree, rfl, fun other => Tree.isText_iff_eq isText, rendered⟩
  | none =>
      refine .inr ⟨rfl, ?_⟩
      intro file tree isText rendered
      rw [read?_eq_some_iff.mpr ⟨tree, isText, rendered⟩] at reads
      cases reads

/-- A text with its name twice, the first time as null. -/
def namedTwice : String := "\x7b\"name\":null,\"name\":\"Town Vote\"\x7d"

/-- A folder with this text in a file. -/
def namedTwiceFolder : Folder := { files := [(["election.json"], .text namedTwice)] }

/-- A name that is given twice is refused, and such a text renders no setup. -/
theorem namedTwice_is_refused :
    namedTwiceFolder.readText? "election.json" = some namedTwice ∧
      (Session.perform (readSetup Session.environment "election.json") namedTwiceFolder).1 =
          .error (.parsing "election.json") ∧
        ∀ (file : SetupFile) (tree : Tree), tree.IsText namedTwice.toList →
          ¬file.IsRenderedBy tree := by
  have holds : namedTwiceFolder.readText? "election.json" = some namedTwice := by decide +kernel
  have unreadable : read? namedTwice = none := by decide +kernel
  refine ⟨holds, ?_⟩
  rcases reading_is_faithful _ _ _ holds with ⟨file, _, loaded, _, _⟩ | refused
  · rw [Session.perform_readSetup holds, unreadable] at loaded
    cases loaded
  · exact refused

end SetupFile

end ElectionReadiness
