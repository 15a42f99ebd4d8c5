import ElectionReadiness.Command.Folder

/-!
# A folder after a file is written

Writing a file changes its own content and nothing else.  The folders stay, the working folder
among them, so a path that led somewhere still leads there, whether from the root or from the
working folder, and a path that led to where the file now is leads to the file
(`Folder.locate_put`).  What is written at a path can be read there (`Folder.readText?_of_write?`).
-/

set_option autoImplicit false

namespace ElectionReadiness.Command.Folder

/-! ## The content of files -/

theorem lookup_putFile_self (steps : List String) (content : Content)
    (files : List (List String × Content)) :
    (putFile steps content files).lookup steps = some content := by
  induction files with
  | nil => simp [putFile]
  | cons file rest ih =>
      obtain ⟨other, present⟩ := file
      rw [putFile]
      split
      · simp
      · next different =>
        have apart : (steps == other) = false := by
          rw [beq_eq_false_iff_ne]
          exact Ne.symm different
        rw [List.lookup_cons, apart]
        exact ih

theorem lookup_putFile_of_ne {steps other : List String} (different : other ≠ steps)
    (content : Content) (files : List (List String × Content)) :
    (putFile steps content files).lookup other = files.lookup other := by
  have apart : (other == steps) = false := beq_eq_false_iff_ne.mpr different
  induction files with
  | nil => rw [putFile, List.lookup_cons, apart]
  | cons file rest ih =>
      obtain ⟨first, present⟩ := file
      rw [putFile]
      split
      · next same =>
        subst same
        rw [List.lookup_cons, List.lookup_cons, apart]
      · rw [List.lookup_cons, List.lookup_cons, ih]

/-! ## Where paths lead -/

/-- The folder with a file put at the end of steps. -/
def put (folder : Folder) (steps : List String) (content : Content) : Folder :=
  { folder with files := putFile steps content folder.files }

theorem isFolder_put (folder : Folder) (steps : List String) (content : Content)
    (other : List String) : (folder.put steps content).isFolder other = folder.isFolder other := rfl

/-- What is at a place once there is a file at the end of steps. -/
def filled (steps : List String) : Place → Place
  | .vacant other => if other = steps then .file other else .vacant other
  | place => place

theorem placeOf_put (folder : Folder) (steps : List String) (content : Content)
    (other : List String) :
    (folder.put steps content).placeOf other = filled steps (folder.placeOf other) := by
  unfold placeOf
  rw [isFolder_put]
  split
  · rfl
  · by_cases same : other = steps
    · subst same
      have present : ((folder.put other content).content? other).isSome = true := by
        rw [content?, put, lookup_putFile_self]
        rfl
      rw [if_pos present]
      split
      · rfl
      · rw [filled, if_pos rfl]
    · have kept : (folder.put steps content).content? other = folder.content? other :=
        lookup_putFile_of_ne same content folder.files
      rw [kept]
      split
      · rfl
      · rw [filled, if_neg same]

theorem step_put (folder : Folder) (steps : List String) (content : Content) (place : Place)
    (name : String) :
    (folder.put steps content).step (filled steps place) name =
      filled steps (folder.step place name) := by
  cases place with
  | folder along =>
      simp only [filled, step]
      split
      · rfl
      · split
        · rfl
        · split
          · exact placeOf_put folder steps content (along ++ [name])
          · rfl
  | file along => rfl
  | vacant along =>
      simp only [filled]
      split <;> rfl
  | nowhere => rfl

/-- A path starts in a folder or nowhere, and so at the same place as before. -/
theorem start_put (folder : Folder) (steps : List String) (content : Content) (path : String) :
    (folder.put steps content).start path = filled steps (folder.start path) := by
  unfold start
  split
  · rfl
  · split <;> rfl

/-- A path leads where it led, and to the new file if it led to where that is. -/
theorem locate_put (folder : Folder) (steps : List String) (content : Content) (path : String) :
    (folder.put steps content).locate path = filled steps (folder.locate path) := by
  have along : ∀ (names : List String) (place : Place),
      names.foldl (folder.put steps content).step (filled steps place) =
        filled steps (names.foldl folder.step place) := by
    intro names
    induction names with
    | nil => exact fun place => rfl
    | cons name later ih =>
        intro place
        rw [List.foldl_cons, List.foldl_cons, step_put, ih]
  rw [locate, start_put, along, locate]

/-! ## Reading what was written -/

theorem write?_eq_some_iff {folder written : Folder} {path : String} {content : Content} :
    folder.write? path content = some written ↔
      ∃ steps, (folder.locate path = .file steps ∨ folder.locate path = .vacant steps) ∧
        folder.put steps content = written := by
  unfold write?
  cases folder.locate path with
  | file steps => simp [put]
  | vacant steps => simp [put]
  | folder steps => simp
  | nowhere => simp

/-- What is written at a path is there afterwards, and can be read. -/
theorem readText?_of_write? {folder written : Folder} {path text : String}
    (succeeds : folder.write? path (.text text) = some written) :
    written.isPresent path = true ∧ written.readText? path = some text := by
  obtain ⟨steps, leads, rfl⟩ := write?_eq_some_iff.mp succeeds
  have found : (folder.put steps (.text text)).locate path = .file steps := by
    rw [locate_put]
    rcases leads with here | here
    · rw [here, filled]
      rintro other ⟨⟩
    · rw [here, filled, if_pos rfl]
  have held : (folder.put steps (.text text)).content? steps = some (.text text) :=
    lookup_putFile_self steps (.text text) folder.files
  constructor
  · rw [isPresent, found]
  · rw [readText?, found]
    simp only [held, Option.bind_some, Content.text?]

end ElectionReadiness.Command.Folder
