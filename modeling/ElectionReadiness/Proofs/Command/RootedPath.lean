import ElectionReadiness.Proofs.Command.NamedFile
import ElectionReadiness.Proofs.Text.FullLines

/-!
# Paths from the root

A path that starts in the working folder can also be written from the root, with the steps to
the working folder in front (`Folder.fromRoot`).  Both lead to the same place
(`Folder.locate_fromRoot`), as long as each of these steps is a name (`Folder.IsName`) and the
longer path is not too long.  So what a run does with paths in its folder it does with paths from
the root.
-/

set_option autoImplicit false

namespace ElectionReadiness.Command.Folder

/-! ## Names -/

/-- A text is one step of a path and goes on to what has this name. -/
structure IsName (name : String) : Prop where
  single : '/' ∉ name.toList
  forward : name ∉ ["", ".", ".."]
  permitted : isFileName name = true

variable {folder : Folder}

theorem step_of_isName {name : String} (isName : IsName name) (steps : List String) :
    folder.step (.folder steps) name = folder.placeOf (steps ++ [name]) := by
  obtain ⟨_, forward, permitted⟩ := isName
  simp only [List.mem_cons, List.not_mem_nil, or_false, not_or] at forward
  obtain ⟨something, notHere, notBack⟩ := forward
  simp only [step, permitted, something, notHere, notBack, beq_iff_eq, Bool.or_eq_true, or_self,
    if_false, if_true]

/-- The steps to the working folder lead there from every folder on the way. -/
theorem foldl_step_here (named : ∀ name ∈ folder.here, IsName name) {before after : List String}
    (parts : before ++ after = folder.here) :
    after.foldl folder.step (.folder before) = .folder folder.here := by
  -- By induction on the steps that are left: what was walked so far is a front part of the way.
  induction after generalizing before with
  | nil => rw [← parts, List.append_nil, List.foldl_nil]
  | cons name later ih =>
      have further : (before ++ [name]) ++ later = folder.here := by
        rw [List.append_assoc, List.singleton_append, parts]
      have isName : IsName name :=
        named name (parts ▸ List.mem_append_right before List.mem_cons_self)
      have onTheWay : folder.isFolder (before ++ [name]) = true := by
        rw [isFolder, List.isPrefixOf_iff_prefix.mpr ⟨later, further⟩, Bool.true_or]
      rw [List.foldl_cons, step_of_isName isName, placeOf, if_pos onTheWay, ih further]

/-! ## Paths from the root -/

/-- A path with steps in front. -/
def withSteps (path : String) : List String → String
  | [] => path
  | name :: later => name ++ "/" ++ withSteps path later

/-- A path that starts in the working folder, written from the root. -/
def fromRoot (folder : Folder) (path : String) : String := "/" ++ withSteps path folder.here

theorem split_withSteps {steps : List String} (single : ∀ name ∈ steps, '/' ∉ name.toList)
    (path : String) :
    Text.split '/' (withSteps path steps).toList =
      steps.map String.toList ++ Text.split '/' path.toList := by
  induction steps with
  | nil => rfl
  | cons name later ih =>
      obtain ⟨nameSingle, laterSingle⟩ := List.forall_mem_cons.mp single
      have written : (withSteps path (name :: later)).toList =
          name.toList ++ '/' :: (withSteps path later).toList := by
        simp [withSteps]
      rw [written, Text.split_append_mark, Text.split_of_notMem nameSingle, ih laterSingle]
      rfl

theorem size_le_withSteps (path : String) (steps : List String) :
    path.utf8ByteSize ≤ (withSteps path steps).utf8ByteSize := by
  induction steps with
  | nil => exact Nat.le_refl _
  | cons name later ih =>
      rw [withSteps, String.utf8ByteSize_append]
      omega

theorem start_fromRoot {path : String} (short : (folder.fromRoot path).utf8ByteSize ≤ longestPath) :
    folder.start (folder.fromRoot path) = .folder [] := by
  have written : (folder.fromRoot path).toList = '/' :: (withSteps path folder.here).toList := by
    simp [fromRoot]
  rw [start, if_neg (Nat.not_lt.mpr short), written]
  rfl

/-- A path that starts in the working folder: it is not empty and does not begin with a slash. -/
def IsRelative (path : String) : Prop := ∃ c rest, path.toList = c :: rest ∧ c ≠ '/'

theorem IsRelative.start {path : String} (relative : IsRelative path)
    (short : path.utf8ByteSize ≤ longestPath) : folder.start path = .folder folder.here := by
  obtain ⟨c, rest, begins, noSlash⟩ := relative
  rw [Folder.start, if_neg (Nat.not_lt.mpr short), begins]
  split
  · contradiction
  · next same => exact absurd (List.cons.inj same).1 noSlash
  · rfl

section SamePlace

variable (named : ∀ name ∈ folder.here, IsName name) {path : String} (relative : IsRelative path)
  (short : (folder.fromRoot path).utf8ByteSize ≤ longestPath)
include named relative short

/-- **A path leads to the same place from the working folder and from the root.** -/
theorem locate_fromRoot : folder.locate (folder.fromRoot path) = folder.locate path := by
  have pathShort : path.utf8ByteSize ≤ longestPath := by
    have longer := size_le_withSteps path folder.here
    rw [fromRoot, String.utf8ByteSize_append] at short
    omega
  have steps : (Text.split '/' (folder.fromRoot path).toList).map String.ofList =
      "" :: (folder.here ++ (Text.split '/' path.toList).map String.ofList) := by
    have split := split_withSteps (fun name mem => (named name mem).single) path
    simp [fromRoot, Text.split, split, Function.comp_def]
  calc folder.locate (folder.fromRoot path)
    _ = (folder.here ++ (Text.split '/' path.toList).map String.ofList).foldl folder.step
          (.folder []) := by rw [locate, start_fromRoot short, steps]; rfl
    _ = folder.locate path := by
      rw [List.foldl_append, foldl_step_here named (List.nil_append _), locate,
        relative.start pathShort]

/-- A path names the same file from the working folder and from the root. -/
theorem names_fromRoot {steps : List String} :
    folder.Names (folder.fromRoot path) steps ↔ folder.Names path steps := by
  rw [Names, Names, locate_fromRoot named relative short]

end SamePlace

/-- An empty folder below the root. -/
def town : Folder := { here := ["town"] }

theorem isName_town : ∀ name ∈ town.here, IsName name :=
  List.forall_mem_singleton.mpr ⟨by decide, by decide, by decide +kernel⟩

end ElectionReadiness.Command.Folder
