import ElectionReadiness.Proofs.Command.Course
import ElectionReadiness.Proofs.Command.WrittenFile

/-!
# Which file a path names

A path names a file, whether the file is there yet or not (`Folder.Names`), and goes on naming
it whatever is written to any file (`Folder.names_save`).  So two paths that do not name the same
file keep apart: what is saved at one is not seen at the other (`Folder.shows_save_apart`),
and saving again what is there already changes nothing (`Folder.save_of_readText?`).
-/

set_option autoImplicit false

namespace ElectionReadiness.Command.Folder

/-! ## Names -/

/-- A path names the file at the end of steps, which may be missing yet. -/
def Names (folder : Folder) (path : String) (steps : List String) : Prop :=
  folder.locate path = .file steps ∨ folder.locate path = .vacant steps

/-- Two paths name the same file. -/
def SameFile (folder : Folder) (path other : String) : Prop :=
  ∃ steps, folder.Names path steps ∧ folder.Names other steps

variable {folder written : Folder} {path other text : String} {steps along : List String}

theorem Names.unique (first : folder.Names path steps) (second : folder.Names path along) :
    steps = along := by
  rcases first with here | here <;> rcases second with there | there <;>
    · cases here.symm.trans there <;> rfl

/-- A path that names another file leads where it led. -/
theorem locate_put_apart (apart : ¬folder.Names path steps) (content : Content) :
    (folder.put steps content).locate path = folder.locate path := by
  rw [locate_put]
  cases leads : folder.locate path with
  | vacant along =>
      rw [filled, if_neg]
      rintro rfl
      exact apart (.inr leads)
  | _ => rfl

theorem locate_put_of_names (names : folder.Names path steps) (content : Content) :
    (folder.put steps content).locate path = .file steps := by
  rw [locate_put]
  rcases names with here | here
  · rw [here, filled]
    rintro other ⟨⟩
  · rw [here, filled, if_pos rfl]

theorem names_put (content : Content) :
    (folder.put steps content).Names path along ↔ folder.Names path along := by
  by_cases names : folder.Names path steps
  · have found := locate_put_of_names names content
    constructor
    · rintro (here | here)
      · rw [found] at here
        cases here
        exact names
      · rw [found] at here
        cases here
    · intro namesAlong
      rw [← names.unique namesAlong]
      exact .inl found
  · rw [Names, locate_put_apart names, Names]

/-! ## Saving -/

/-- Saving puts the text into the file that the path names. -/
theorem save_eq_ok_iff :
    folder.save path text = .ok written ↔
      ∃ steps, folder.Names path steps ∧ folder.put steps (.text text) = written := by
  constructor
  · intro saves
    unfold save at saves
    split at saves
    · cases saves
    · next writes =>
      cases saves
      exact write?_eq_some_iff.mp writes
  · rintro ⟨steps, names, rfl⟩
    rw [save, write?_eq_some_iff.mpr ⟨steps, names, rfl⟩]

theorem write?_eq_none_iff {content : Content} :
    folder.write? path content = none ↔ ∀ steps, ¬folder.Names path steps := by
  constructor
  · intro fails steps names
    rw [write?_eq_some_iff.mpr ⟨steps, names, rfl⟩] at fails
    cases fails
  · intro noFile
    rw [Option.eq_none_iff_forall_ne_some]
    intro written writes
    obtain ⟨steps, names, _⟩ := write?_eq_some_iff.mp writes
    exact noFile steps names

/-- Saving fails exactly where the path names no file. -/
theorem save_eq_error_iff {failure : Failure} :
    folder.save path text = .error failure ↔
      failure = .writing path ∧ ∀ steps, ¬folder.Names path steps := by
  rw [← @write?_eq_none_iff folder path (.text text), save]
  cases folder.write? path (.text text) with
  | none => simp [eq_comm]
  | some written => simp

/-- Saving a setup fails only if it is wanted and the path names no file. -/
theorem keep_eq_error_iff {wanted : Bool} {file : SetupFile} {failure : Failure} :
    folder.keep wanted path file = .error failure ↔
      wanted = true ∧ failure = .writing path ∧ ∀ steps, ¬folder.Names path steps := by
  cases wanted with
  | false => simp [keep]
  | true => simp [keep, save_eq_error_iff]

/-- Saving keeps what paths name. -/
theorem names_save (saves : folder.save path text = .ok written) {steps : List String} :
    written.Names other steps ↔ folder.Names other steps := by
  obtain ⟨_, _, rfl⟩ := save_eq_ok_iff.mp saves
  exact names_put _

theorem names_keep {wanted : Bool} {place : String} {file : SetupFile}
    (keeps : folder.keep wanted place file = .ok written) {steps : List String} :
    written.Names path steps ↔ folder.Names path steps := by
  cases wanted with
  | false =>
      cases keeps
      exact Iff.rfl
  | true => exact names_save keeps

theorem sameFile_keep {wanted : Bool} {place : String} {file : SetupFile}
    (keeps : folder.keep wanted place file = .ok written) :
    written.SameFile path other ↔ folder.SameFile path other := by
  simp only [SameFile, names_keep keeps]

/-- What is saved is there and can be read. -/
theorem holds_save (saves : folder.save path text = .ok written) :
    written.isPresent path = true ∧ written.readText? path = some text :=
  readText?_of_write? (write?_eq_some_iff.mpr (save_eq_ok_iff.mp saves))

/-- What is saved can be read at every path that names the same file. -/
theorem readText?_save_sameFile (saves : folder.save other text = .ok written)
    (same : folder.SameFile path other) : written.readText? path = some text := by
  obtain ⟨steps, names, rfl⟩ := save_eq_ok_iff.mp saves
  obtain ⟨along, first, second⟩ := same
  cases second.unique names
  have held : (folder.put steps (.text text)).content? steps = some (.text text) :=
    lookup_putFile_self steps (.text text) folder.files
  rw [readText?, locate_put_of_names first]
  simp only [held, Option.bind_some, Content.text?]

/-- A path that names another file shows what it showed. -/
theorem shows_save_apart (saves : folder.save other text = .ok written)
    (apart : ¬folder.SameFile path other) :
    written.isPresent path = folder.isPresent path ∧
      written.readText? path = folder.readText? path := by
  obtain ⟨steps, names, rfl⟩ := save_eq_ok_iff.mp saves
  have elsewhere : ¬folder.Names path steps := fun here => apart ⟨steps, here, names⟩
  rw [isPresent, isPresent, readText?, readText?, locate_put_apart elsewhere]
  refine ⟨rfl, ?_⟩
  cases leads : folder.locate path with
  | file along =>
      have different : along ≠ steps := by
        rintro rfl
        exact elsewhere (.inl leads)
      simp only [content?, put, lookup_putFile_of_ne different]
  | _ => rfl

theorem putFile_of_lookup {steps : List String} {content : Content}
    {files : List (List String × Content)} (present : files.lookup steps = some content) :
    putFile steps content files = files := by
  induction files with
  | nil => cases present
  | cons file rest ih =>
      obtain ⟨first, held⟩ := file
      rw [putFile]
      split
      · next same =>
        subst same
        rw [List.lookup_cons, beq_self_eq_true] at present
        cases present
        rfl
      · next different =>
        have apart : (steps == first) = false := beq_eq_false_iff_ne.mpr (Ne.symm different)
        rw [List.lookup_cons, apart] at present
        rw [ih present]

/-- Saving what is there already changes nothing. -/
theorem save_of_readText? (holds : folder.readText? path = some text) :
    folder.save path text = .ok folder := by
  unfold readText? at holds
  split at holds
  · next steps leads =>
    obtain ⟨content, present, isText⟩ := Option.bind_eq_some_iff.mp holds
    refine save_eq_ok_iff.mpr ⟨steps, .inl leads, ?_⟩
    cases content with
    | text held =>
        cases isText
        rw [put, putFile_of_lookup present]
    | bytes raw => cases isText
  · cases holds

/-! ## What stays -/

/-- A later folder differs from the first in no more than some of the files of the tree. -/
structure DiffersOnlyAt (may : List String → Prop) (folder later : Folder) : Prop where
  here : later.here = folder.here
  folders : later.folders = folder.folders
  files : ∀ steps, later.content? steps ≠ folder.content? steps → may steps

variable {later : Folder} {may : List String → Prop}

theorem DiffersOnlyAt.refl (may : List String → Prop) (folder : Folder) :
    DiffersOnlyAt may folder folder := ⟨rfl, rfl, fun _ changes => absurd rfl changes⟩

theorem DiffersOnlyAt.trans (first : DiffersOnlyAt may folder written)
    (second : DiffersOnlyAt may written later) : DiffersOnlyAt may folder later := by
  refine ⟨second.here.trans first.here, second.folders.trans first.folders,
    fun steps changes => ?_⟩
  by_cases same : written.content? steps = folder.content? steps
  · exact second.files steps (same ▸ changes)
  · exact first.files steps same

/-- Saving changes no file but the one that the path names. -/
theorem differsOnlyAt_save (saves : folder.save path text = .ok written)
    (allowed : ∀ steps, folder.Names path steps → may steps) :
    DiffersOnlyAt may folder written := by
  obtain ⟨along, names, rfl⟩ := save_eq_ok_iff.mp saves
  refine ⟨rfl, rfl, fun steps changes => allowed steps ?_⟩
  by_cases here : steps = along
  · exact here ▸ names
  · exact absurd (lookup_putFile_of_ne here _ folder.files) changes

end ElectionReadiness.Command.Folder
