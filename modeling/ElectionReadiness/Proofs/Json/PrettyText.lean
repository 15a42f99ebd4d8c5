import ElectionReadiness.Proofs.Json.ReadValue
import ElectionReadiness.Proofs.Json.WrittenNumber

/-!
# What the text of a value says

Whatever a value is, its text is written for one tree (`Value.tree`), so values with the same
text have the same tree (`Value.tree_eq_of_pretty`).

A value without numbers, with its members in order and arrays and objects not too deep in each
other, is *plain*.  The tree of a plain value means the value and belongs to no other value, so
its text is read back as the value (`Value.IsPlain.isTextOf_pretty`) and no other value has that
text (`Value.IsPlain.eq_of_pretty`).
-/

set_option autoImplicit false

namespace ElectionReadiness.Json

open Json.Tree

/-! ## The tree that a text is written for -/

namespace Value

mutual

/-- The tree that the text of a value is written for. -/
def tree : Value → Tree
  | .null => .null
  | .bool value => .bool value
  | .number value => .number value.numeral
  | .string text => .string (pieces text)
  | .array items => .array (itemTrees items)
  | .object members => .object (memberTrees members)

/-- The trees of items. -/
def itemTrees : List Value → List Tree
  | [] => []
  | item :: others => item.tree :: itemTrees others

/-- The trees of members, with their names in pieces. -/
def memberTrees : List (String × Value) → List (List Piece × Tree)
  | [] => []
  | (name, content) :: others => (pieces name, content.tree) :: memberTrees others

end

theorem itemTrees_eq_map (items : List Value) : itemTrees items = items.map tree := by
  induction items with
  | nil => rfl
  | cons item others ih => rw [itemTrees, ih, List.map_cons]

theorem memberTrees_eq_map (members : List (String × Value)) :
    memberTrees members = members.map fun member => (pieces member.1, member.2.tree) := by
  induction members with
  | nil => rfl
  | cons member others ih => rw [memberTrees, ih, List.map_cons]

mutual

theorem spells_tree : (value : Value) → value.Spells value.tree
  | .null => spells_null
  | .bool true => fun _ => writes_token .yes
  | .bool false => fun _ => writes_token .no
  | .number content => fun _ => writes_token (.number content.isWritten_write)
  | .string text => spells_string text
  | .array items => spells_array (spells_itemTrees items)
  | .object members => spells_object (spells_memberTrees members)

theorem spells_itemTrees : (items : List Value) →
    List.Forall₂ Value.Spells items (itemTrees items)
  | [] => .nil
  | item :: others => .cons (spells_tree item) (spells_itemTrees others)

theorem spells_memberTrees : (members : List (String × Value)) →
    List.Forall₂ MemberSpells members (memberTrees members)
  | [] => .nil
  | (_, content) :: others => .cons ⟨rfl, spells_tree content⟩ (spells_memberTrees others)

end

/-- **The text of a value is written for its tree.** -/
theorem isText_pretty (value : Value) : value.tree.IsText value.pretty.toList :=
  Tree.parsed_iff.mp (ofTokens?_pretty value.spells_tree)

/-- **Values with the same text have the same tree.** -/
theorem tree_eq_of_pretty {one other : Value} (same : one.pretty = other.pretty) :
    one.tree = other.tree := by
  have isText := one.isText_pretty
  rw [same] at isText
  exact (Tree.isText_iff_eq other.isText_pretty).mp isText

/-! ## Plain values -/

/-- Without numbers, with members in the order of their names, and with arrays and objects in
each other to a depth at most. -/
inductive IsPlain : Nat → Value → Prop
  | null {depth : Nat} : IsPlain depth .null
  | bool {depth : Nat} (value : Bool) : IsPlain depth (.bool value)
  | string {depth : Nat} (text : String) : IsPlain depth (.string text)
  | array {depth : Nat} {items : List Value} (each : ∀ item ∈ items, IsPlain depth item) :
      IsPlain (depth + 1) (.array items)
  | object {depth : Nat} {members : List (String × Value)} (inOrder : InNameOrder members)
      (each : ∀ member ∈ members, IsPlain depth member.2) : IsPlain (depth + 1) (.object members)

theorem depthOfItems_le {depth : Nat} {items : List Value}
    (each : ∀ item ∈ items, item.tree.depth ≤ depth) : depthOfItems (itemTrees items) ≤ depth := by
  induction items with
  | nil => exact Nat.zero_le depth
  | cons item others ih =>
      obtain ⟨first, later⟩ := List.forall_mem_cons.mp each
      exact max_le first (ih later)

theorem depthOfMembers_le {depth : Nat} {members : List (String × Value)}
    (each : ∀ member ∈ members, member.2.tree.depth ≤ depth) :
    depthOfMembers (memberTrees members) ≤ depth := by
  induction members with
  | nil => exact Nat.zero_le depth
  | cons member others ih =>
      obtain ⟨first, later⟩ := List.forall_mem_cons.mp each
      exact max_le first (ih later)

theorem itemsMean_itemTrees {items : List Value} (each : ∀ item ∈ items, item.tree.Means item) :
    Tree.ItemsMean (itemTrees items) items := by
  induction items with
  | nil => exact .nil
  | cons item others ih =>
      obtain ⟨first, later⟩ := List.forall_mem_cons.mp each
      exact .cons first (ih later)

theorem membersMean_memberTrees {members : List (String × Value)}
    (each : ∀ member ∈ members, member.2.tree.Means member.2) :
    Tree.MembersMean (memberTrees members) members := by
  induction members with
  | nil => exact .nil
  | cons member others ih =>
      obtain ⟨first, later⟩ := List.forall_mem_cons.mp each
      exact .cons (decodeString?_eq_some_iff.mp (decodeString?_pieces member.1)) first (ih later)

/-- A plain value is as deep as its tree, and what its tree means. -/
theorem IsPlain.tree_means {depth : Nat} {value : Value} (plain : value.IsPlain depth) :
    value.tree.depth ≤ depth ∧ value.tree.Means value := by
  induction plain with
  | null => exact ⟨Nat.zero_le _, .null⟩
  | bool content => exact ⟨Nat.zero_le _, .bool content⟩
  | string text =>
      exact ⟨Nat.zero_le _, .string (decodeString?_eq_some_iff.mp (decodeString?_pieces text))⟩
  | array _ ih =>
      exact ⟨Nat.succ_le_succ (depthOfItems_le fun item mem => (ih item mem).1),
        .array (itemsMean_itemTrees fun item mem => (ih item mem).2)⟩
  | object inOrder _ ih =>
      exact ⟨Nat.succ_le_succ (depthOfMembers_le fun member mem => (ih member mem).1),
        .object (membersMean_memberTrees fun member mem => (ih member mem).2) inOrder.keepsLast⟩

/-- **The text of a plain value is read back as the value.** -/
theorem IsPlain.isTextOf_pretty {depth : Nat} {value : Value} (plain : value.IsPlain depth)
    (shallow : depth ≤ deepest) : value.IsTextOf value.pretty :=
  ⟨value.tree, value.isText_pretty, plain.tree_means.1.trans shallow, plain.tree_means.2⟩

/-! ## No other value -/

theorem pieces_injective {one other : String} (same : pieces one = pieces other) : one = other := by
  have decoded := decodeString?_pieces one
  rw [same, decodeString?_pieces other] at decoded
  exact (Option.some.inj decoded).symm

/-- Lists with the same images are the same if each image belongs to one only. -/
theorem eq_of_map_eq {α β : Type} {image : α → β} {list other : List α}
    (each : ∀ one ∈ list, ∀ two, image two = image one → two = one)
    (same : other.map image = list.map image) : other = list := by
  induction list generalizing other with
  | nil => exact List.map_eq_nil_iff.mp same
  | cons one later ih =>
      cases other with
      | nil => cases same
      | cons two others =>
          obtain ⟨first, rest⟩ := List.forall_mem_cons.mp each
          obtain ⟨firstSame, restSame⟩ := List.cons.inj same
          rw [first two firstSame, ih rest restSame]

/-- The tree of a plain value is the tree of no other value. -/
theorem IsPlain.eq_of_tree {depth : Nat} {value other : Value} (plain : value.IsPlain depth)
    (same : other.tree = value.tree) : other = value := by
  induction plain generalizing other with
  | null =>
      cases other <;> cases same
      rfl
  | bool content =>
      cases other <;> cases same
      rfl
  | string text =>
      cases other with
      | string written => exact congrArg Value.string (pieces_injective (Tree.string.inj same))
      | _ => cases same
  | @array _ items _ ih =>
      cases other with
      | array others =>
          have trees : itemTrees others = itemTrees items := Tree.array.inj same
          rw [itemTrees_eq_map, itemTrees_eq_map] at trees
          exact congrArg Value.array (eq_of_map_eq (fun item mem two => ih item mem) trees)
      | _ => cases same
  | @object _ members _ _ ih =>
      cases other with
      | object others =>
          have trees : memberTrees others = memberTrees members := Tree.object.inj same
          rw [memberTrees_eq_map, memberTrees_eq_map] at trees
          refine congrArg Value.object (eq_of_map_eq ?_ trees)
          intro member mem otherMember sameMember
          obtain ⟨names, contents⟩ := Prod.mk.inj sameMember
          exact Prod.ext (pieces_injective names) (ih member mem contents)
      | _ => cases same

/-- **The text of a plain value is the text of no other value.** -/
theorem IsPlain.eq_of_pretty {depth : Nat} {value other : Value} (plain : value.IsPlain depth)
    (same : other.pretty = value.pretty) : other = value := plain.eq_of_tree (tree_eq_of_pretty same)

end Value

end ElectionReadiness.Json
