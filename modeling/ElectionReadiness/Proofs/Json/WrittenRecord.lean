import ElectionReadiness.Json.Record
import ElectionReadiness.Proofs.Json.WrittenValue

/-!
# How records are written

A way to write contents and a way to read them fit together if every content, once written,
is read back as itself (`ReadsBack`).  That holds of strings and words, and of lists if it
holds of their items.  It holds of a record if its fields have different names and each field
reads its own content (`exists_record`), which a required field does if its content reads
back, and an optional one as well, since nothing present is written as null.
-/

set_option autoImplicit false

namespace ElectionReadiness.Json

variable {α : Type} {write : α → Value} {read? : Tree → Option α}

/-- A content, once written, is read back as itself, and is not null. -/
def ReadsBack (write : α → Value) (read? : Tree → Option α) : Prop :=
  ∀ content, ∃ tree, (write content).Spells tree ∧ tree ≠ .null ∧ read? tree = some content

/-- A value that is written in a field is read there as a content. -/
def FieldReads {β : Type} (value : Value) (field? : Option Tree → Option β) (content : β) :
    Prop :=
  ∃ tree, value.Spells tree ∧ field? (some tree) = some content

/-! ## Contents -/

theorem readsBack_string : ReadsBack .string Tree.string? := by
  intro text
  exact ⟨_, spells_string text, by rintro ⟨⟩, decodeString?_pieces text⟩

theorem readsBack_word :
    ReadsBack (fun count : UInt32 => .number (.whole count.toNat)) Tree.word? := by
  intro count
  refine ⟨_, spells_natural count.toNat, by rintro ⟨⟩, ?_⟩
  have fits : count.toNat < UInt32.size := count.toNat_lt_size
  have small : count.toNat ≤ largestWord := by
    simp only [largestWord, UInt32.size] at *
    omega
  have whole : (naturalNumeral count.toNat).whole? = some (.ofNat count.toNat) :=
    whole?_natural small
  simp only [Tree.word?, whole, if_pos fits, UInt32.ofNat_toNat]

/-- A function that succeeds on all items collects the results. -/
theorem mapM_eq_some_of_forall₂ {β : Type} {f : α → Option β} {items : List α} {results : List β}
    (each : List.Forall₂ (fun item result => f item = some result) items results) :
    items.mapM f = some results := by
  induction each with
  | nil => rfl
  | cons here _ ih =>
      rw [List.mapM_cons, here, ih]
      rfl

theorem ReadsBack.list (items : ReadsBack write read?) :
    ReadsBack (Value.ofList write) (Tree.list? read?) := by
  intro contents
  have trees : ∃ trees, List.Forall₂ Value.Spells (contents.map write) trees ∧
      List.Forall₂ (fun tree content => read? tree = some content) trees contents := by
    induction contents with
    | nil => exact ⟨[], .nil, .nil⟩
    | cons content others ih =>
        obtain ⟨tree, spells, _, reads⟩ := items content
        obtain ⟨trees, spellsOthers, readsOthers⟩ := ih
        exact ⟨tree :: trees, .cons spells spellsOthers, .cons reads readsOthers⟩
  obtain ⟨trees, spells, reads⟩ := trees
  exact ⟨_, spells_array spells, by rintro ⟨⟩, mapM_eq_some_of_forall₂ reads⟩

/-! ## Fields -/

theorem ReadsBack.required (contents : ReadsBack write read?) (content : α) :
    FieldReads (write content) (Tree.required? read?) content := by
  obtain ⟨tree, spells, _, reads⟩ := contents content
  exact ⟨tree, spells, reads⟩

theorem ReadsBack.optional (contents : ReadsBack write read?) (content : Option α) :
    FieldReads (Value.ofOption write content) (Tree.optional? read?) content := by
  cases content with
  | none => exact ⟨.null, spells_null, rfl⟩
  | some present =>
      obtain ⟨tree, spells, notNull, reads⟩ := contents present
      refine ⟨tree, spells, ?_⟩
      unfold Tree.optional?
      split
      · next missing => cases missing
      · next null => exact absurd (Option.some.inj null) notNull
      · next here =>
        rw [← Option.some.inj here, reads]
        rfl

/-! ## Records -/

/-- Of members with different names, a member is what they say about its name. -/
theorem fieldOf?_of_mem {members : List (String × Tree)} {member : String × Tree}
    (different : (members.map Prod.fst).Nodup) (mem : member ∈ members) :
    Tree.fieldOf? members member.1 = some (some member.2) := by
  have alone : members.filter (fun other => other.1 == member.1) = [member] := by
    induction members with
    | nil => cases mem
    | cons first others ih =>
        rw [List.map_cons, List.nodup_cons] at different
        rcases List.mem_cons.mp mem with rfl | later
        · have none_other : others.filter (fun other => other.1 == member.1) = [] := by
            rw [List.filter_eq_nil_iff]
            intro other mem same
            exact different.1 (eq_of_beq same ▸ List.mem_map_of_mem mem)
          rw [List.filter_cons_of_pos (by simp), none_other]
        · have apart : ¬(first.1 == member.1) = true := by
            intro same
            exact different.1 (eq_of_beq same ▸ List.mem_map_of_mem later)
          rw [List.filter_cons, if_neg apart, ih different.2 later]
  rw [Tree.fieldOf?, alone]

/-- Names that are written in their pieces are read as the names. -/
theorem named?_pieces (members : List (String × Tree)) :
    Tree.named? (members.map fun member => (pieces member.1, member.2)) = some members := by
  induction members with
  | nil => rfl
  | cons member others ih => rw [List.map_cons, Tree.named?, decodeString?_pieces, ih]

/-- **A record with different names of fields is read back field by field.** -/
theorem exists_record {fields : List String} (different : fields.Nodup) {contents : List Value}
    {trees : List Tree} (each : List.Forall₂ Value.Spells contents trees)
    (full : fields.length = trees.length) :
    ∃ tree, (Value.ofFields fields contents).Spells tree ∧ tree ≠ .null ∧
      tree.fields? fields = some (trees.map some) := by
  have members : List.Forall₂ MemberSpells (fields.zip contents)
      ((fields.zip trees).map fun member => (pieces member.1, member.2)) := by
    clear different full
    induction each generalizing fields with
    | nil => rw [List.zip_nil_right, List.zip_nil_right]; exact .nil
    | cons here _ ih =>
        cases fields with
        | nil => exact .nil
        | cons field others => exact .cons ⟨rfl, here⟩ ih
  refine ⟨_, spells_object members, by rintro ⟨⟩, ?_⟩
  have names : (fields.zip trees).map Prod.fst = fields := List.map_fst_zip (Nat.le_of_eq full)
  have values : (fields.zip trees).map Prod.snd = trees :=
    List.map_snd_zip (Nat.le_of_eq full.symm)
  have found : List.Forall₂
      (fun field content => Tree.fieldOf? (fields.zip trees) field = some content)
      ((fields.zip trees).map Prod.fst) ((fields.zip trees).map fun member => some member.2) := by
    rw [List.forall₂_map_left_iff, List.forall₂_map_right_iff, List.forall₂_same]
    intro member mem
    exact fieldOf?_of_mem (names.symm ▸ different) mem
  have collected := mapM_eq_some_of_forall₂ found
  rw [names] at collected
  rw [Tree.fields?, named?_pieces, Option.bind_some, collected]
  exact congrArg some (List.map_map.symm.trans (congrArg (List.map some) values))

end ElectionReadiness.Json
