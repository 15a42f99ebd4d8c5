import ElectionReadiness.Json.Value
import ElectionReadiness.Proofs.Json.AssembledTree
import ElectionReadiness.Proofs.Json.PieceMeaning
import Mathlib.Data.List.Induction
import Mathlib.Data.String.Basic

/-!
# Which value a text stands for

What a tree means as a value (`Tree.Means`): numerals are numbers, pieces are the strings that
they stand for, and an object has its members in the order of their names, each with the content
that stands last under its name.  A text stands for a value if it is written for a tree of
limited depth that means the value (`Value.IsTextOf`).

Reading finds that value and fails exactly if there is none (`Value.parse?_eq_some_iff`).  This
rests on two facts: the depth that is counted along the tokens of a tree is the depth of the
tree (`Tree.withinDepth_tokens`), and putting members in one after the other keeps the last of
each name, in order (`foldl_putMember_iff`).
-/

set_option autoImplicit false

namespace ElectionReadiness.Json

/-! ## The last member of each name, in order -/

section Members

variable {α : Type}

/-- Members are in the order of their names, which are all different. -/
def InNameOrder (members : List (String × α)) : Prop := (members.map Prod.fst).Pairwise (· < ·)

/-- Members in order that have, under each name, what stands last in another list. -/
structure KeepsLast (given members : List (String × α)) : Prop where
  inOrder : InNameOrder members
  last : ∀ name, members.lookup name = given.reverse.lookup name

theorem lookup_member (name other : String) (content : α) (members : List (String × α)) :
    ((name, content) :: members).lookup other =
      if other = name then some content else members.lookup other := by
  rw [List.lookup_cons]
  by_cases here : other = name
  · rw [if_pos here, here, beq_self_eq_true]
  · rw [if_neg here, beq_eq_false_iff_ne.mpr here]

theorem lookup_insertMember (name : String) (value : α) (members : List (String × α))
    (other : String) :
    (insertMember name value members).lookup other =
      if other = name then some value else members.lookup other := by
  induction members with
  | nil => exact lookup_member name other value []
  | cons member rest ih =>
      obtain ⟨first, content⟩ := member
      rw [insertMember]
      split
      · exact lookup_member name other value _
      · split
        · next same =>
          subst same
          rw [lookup_member, lookup_member]
          split <;> rfl
        · next different =>
          rw [lookup_member, lookup_member, ih]
          by_cases here : other = first
          · rw [if_pos here, if_pos here, if_neg (here ▸ Ne.symm different)]
          · rw [if_neg here, if_neg here]

theorem mem_names_insertMember {name other : String} {value : α} {members : List (String × α)}
    (mem : other ∈ (insertMember name value members).map Prod.fst) :
    other = name ∨ other ∈ members.map Prod.fst := by
  induction members with
  | nil => exact .inl (by simpa [insertMember] using mem)
  | cons member rest ih =>
      obtain ⟨first, content⟩ := member
      rw [insertMember] at mem
      split at mem
      · exact List.mem_cons.mp mem
      · split at mem
        · next same =>
          subst same
          exact .inr mem
        · rcases List.mem_cons.mp mem with rfl | mem
          · exact .inr (List.mem_cons_self ..)
          · exact (ih mem).imp_right (List.mem_cons_of_mem _)

theorem InNameOrder.insertMember {members : List (String × α)} (inOrder : InNameOrder members)
    (name : String) (value : α) : InNameOrder (insertMember name value members) := by
  induction members with
  | nil => exact List.pairwise_singleton _ _
  | cons member rest ih =>
      obtain ⟨first, content⟩ := member
      obtain ⟨below, rest'⟩ := List.pairwise_cons.mp inOrder
      rw [Json.insertMember]
      split
      · next before =>
        refine List.pairwise_cons.mpr ⟨?_, inOrder⟩
        intro other mem
        rcases List.mem_cons.mp mem with rfl | mem
        · exact before
        · exact lt_trans before (below other mem)
      · next notBefore =>
        split
        · next same =>
          subst same
          exact inOrder
        · next different =>
          refine List.pairwise_cons.mpr ⟨?_, ih rest'⟩
          intro other mem
          rcases mem_names_insertMember mem with rfl | mem
          · exact lt_of_le_of_ne (not_lt.mp notBefore) (Ne.symm different)
          · exact below other mem

/-- Nothing is found under a name that is below all names. -/
theorem lookup_eq_none_of_below {name : String} {members : List (String × α)}
    (below : ∀ other ∈ members.map Prod.fst, name < other) : members.lookup name = none := by
  rw [List.lookup_eq_none_iff]
  intro member mem
  exact bne_iff_ne.mpr (ne_of_lt (below member.1 (List.mem_map_of_mem mem)))

/-- The first of members in order is not below the first of others if all is found there. -/
theorem InNameOrder.not_below {name other : String} {content content' : α}
    {rest rest' : List (String × α)} (inOrder : InNameOrder ((other, content') :: rest'))
    (same : ((name, content) :: rest).lookup name = ((other, content') :: rest').lookup name) :
    ¬name < other := by
  intro below
  have absent : ((other, content') :: rest').lookup name = none := by
    refine lookup_eq_none_of_below fun further mem => ?_
    rcases List.mem_cons.mp mem with rfl | mem
    · exact below
    · exact lt_trans below ((List.pairwise_cons.mp inOrder).1 further mem)
  rw [absent, lookup_member, if_pos rfl] at same
  cases same

/-- Where the same is found under each name, the first members are the same. -/
theorem InNameOrder.first_eq {member other : String × α} {rest rest' : List (String × α)}
    (first : InNameOrder (member :: rest)) (second : InNameOrder (other :: rest'))
    (same : ∀ name, (member :: rest).lookup name = (other :: rest').lookup name) :
    member = other := by
  obtain ⟨name, content⟩ := member
  obtain ⟨name', content'⟩ := other
  have names : name = name' :=
    le_antisymm (not_lt.mp (first.not_below (same name').symm))
      (not_lt.mp (second.not_below (same name)))
  subst names
  have found := same name
  rw [lookup_member, lookup_member, if_pos rfl, if_pos rfl] at found
  rw [Option.some.inj found]

/-- Where the same is found under each name, it is also found behind the same first member. -/
theorem InNameOrder.rest_same {member : String × α} {rest rest' : List (String × α)}
    (first : InNameOrder (member :: rest)) (second : InNameOrder (member :: rest'))
    (same : ∀ name, (member :: rest).lookup name = (member :: rest').lookup name) (name : String) :
    rest.lookup name = rest'.lookup name := by
  by_cases here : name = member.1
  · subst here
    rw [lookup_eq_none_of_below (List.pairwise_cons.mp first).1,
      lookup_eq_none_of_below (List.pairwise_cons.mp second).1]
  · have found := same name
    rwa [lookup_member, lookup_member, if_neg here, if_neg here] at found

/-- Members in order are known from what is found under each name. -/
theorem InNameOrder.ext {one other : List (String × α)} (first : InNameOrder one)
    (second : InNameOrder other) (same : ∀ name, one.lookup name = other.lookup name) :
    one = other := by
  induction one generalizing other with
  | nil =>
      cases other with
      | nil => rfl
      | cons member rest =>
          have found := same member.1
          rw [lookup_member, if_pos rfl] at found
          cases found
  | cons member rest ih =>
      cases other with
      | nil =>
          have found := same member.1
          rw [lookup_member, if_pos rfl] at found
          cases found
      | cons member' rest' =>
          cases first.first_eq second same
          rw [ih (List.pairwise_cons.mp first).2 (List.pairwise_cons.mp second).2
            (first.rest_same second same)]

/-- A member put among others. -/
def putMember (members : List (String × α)) (member : String × α) : List (String × α) :=
  insertMember member.1 member.2 members

/-- Members that are put in one after the other are the last of each name, in order. -/
theorem foldl_putMember_iff {given members : List (String × α)} :
    given.foldl putMember [] = members ↔ KeepsLast given members := by
  have keeps : KeepsLast given (given.foldl putMember []) := by
    induction given using List.reverseRecOn with
    | nil => exact ⟨List.Pairwise.nil, fun _ => rfl⟩
    | append_singleton earlier member ih =>
        rw [List.foldl_append]
        refine ⟨ih.inOrder.insertMember _ _, fun name => ?_⟩
        rw [List.foldl_cons, List.foldl_nil, putMember, lookup_insertMember, ih.last,
          List.reverse_append, List.reverse_singleton, List.singleton_append, lookup_member]
  constructor
  · rintro rfl
    exact keeps
  · intro other
    exact keeps.inOrder.ext other.inOrder fun name => (keeps.last name).trans (other.last name).symm

/-- Members in order keep all that they are given. -/
theorem InNameOrder.keepsLast {members : List (String × α)} (inOrder : InNameOrder members) :
    KeepsLast members members := by
  refine ⟨inOrder, fun name => ?_⟩
  induction members with
  | nil => rfl
  | cons member rest ih =>
      obtain ⟨first, content⟩ := member
      obtain ⟨below, restInOrder⟩ := List.pairwise_cons.mp inOrder
      rw [List.reverse_cons, List.lookup_append, ← ih restInOrder, lookup_member, lookup_member]
      by_cases here : name = first
      · subst here
        rw [if_pos rfl, if_pos rfl, lookup_eq_none_of_below below]
        rfl
      · rw [if_neg here, if_neg here]
        cases rest.lookup name <;> rfl

end Members

/-! ## How deep arrays and objects lie in each other -/

namespace Tree

mutual

/-- How many arrays and objects lie in each other, at most. -/
def depth : Tree → Nat
  | .array items => depthOfItems items + 1
  | .object members => depthOfMembers members + 1
  | _ => 0

/-- The depth of the deepest item. -/
def depthOfItems : List Tree → Nat
  | [] => 0
  | item :: others => max item.depth (depthOfItems others)

/-- The depth of the deepest member. -/
def depthOfMembers : List (List Piece × Tree) → Nat
  | [] => 0
  | (_, content) :: others => max content.depth (depthOfMembers others)

end

end Tree

open Json.Tree

theorem Token.withinDepth_cons (limit depth : Nat) (token : Token) (later : List Token) :
    Token.withinDepth limit depth (token :: later) = true ↔
      token.depthAfter depth ≤ limit ∧
        Token.withinDepth limit (token.depthAfter depth) later = true := by
  rw [Token.withinDepth, Bool.and_eq_true, decide_eq_true_iff]

/-- Names, colons and commas neither open nor close. -/
inductive Token.IsFlat : Token → Prop
  | string (pieces : List Piece) : IsFlat (.string pieces)
  | colon : IsFlat .colon
  | comma : IsFlat .comma

theorem Token.withinDepth_flat {limit depth : Nat} (fits : depth ≤ limit) {token : Token}
    (flat : token.IsFlat) {later : List Token} :
    Token.withinDepth limit depth (token :: later) = true ↔
      Token.withinDepth limit depth later = true := by
  rw [Token.withinDepth_cons]
  cases flat with
  | string | colon | comma => exact and_iff_right fits

/-- Brackets add one to the depth of what stands between them. -/
theorem Token.withinDepth_enclosed {limit depth inner : Nat} {opening closing : Token}
    {inside later : List Token} (deeper : ∀ outside, opening.depthAfter outside = outside + 1)
    (back : ∀ outside, closing.depthAfter (outside + 1) = outside)
    (within : depth + 1 ≤ limit →
      (Token.withinDepth limit (depth + 1) (inside ++ (closing :: later)) = true ↔
        depth + 1 + inner ≤ limit ∧
          Token.withinDepth limit (depth + 1) (closing :: later) = true)) :
    Token.withinDepth limit depth (opening :: (inside ++ (closing :: later))) = true ↔
      depth + (inner + 1) ≤ limit ∧ Token.withinDepth limit depth later = true := by
  have closes := Token.withinDepth_cons limit (depth + 1) closing later
  rw [back] at closes
  rw [Token.withinDepth_cons, deeper]
  constructor
  · rintro ⟨opens, written⟩
    obtain ⟨fits, closed⟩ := (within opens).mp written
    exact ⟨by omega, (closes.mp closed).2⟩
  · rintro ⟨fits, goesOn⟩
    have opens : depth + 1 ≤ limit := by omega
    exact ⟨opens, (within opens).mpr ⟨by omega, closes.mpr ⟨by omega, goesOn⟩⟩⟩

mutual

/-- The depth counted along the tokens of a tree is the depth that the tree adds. -/
theorem Tree.withinDepth_tokens (limit : Nat) {depth : Nat} {later : List Token} :
    (tree : Tree) → (Token.withinDepth limit depth (tree.tokens ++ later) = true ↔
      depth + tree.depth ≤ limit ∧ Token.withinDepth limit depth later = true)
  | .null => Token.withinDepth_cons limit depth .null later
  | .bool value => Token.withinDepth_cons limit depth (.bool value) later
  | .number spelled => Token.withinDepth_cons limit depth (.number spelled) later
  | .string spelled => Token.withinDepth_cons limit depth (.string spelled) later
  | .array items => by
      rw [tokens, List.cons_append, List.append_assoc]
      exact Token.withinDepth_enclosed (fun _ => rfl) (fun _ => rfl)
        fun opens => withinDepth_itemTokens limit items opens
  | .object members => by
      rw [tokens, List.cons_append, List.append_assoc]
      exact Token.withinDepth_enclosed (fun _ => rfl) (fun _ => rfl)
        fun opens => withinDepth_memberTokens limit members opens
termination_by tree => sizeOf tree

/-- Items are within the limit if the deepest is. -/
theorem Tree.withinDepth_itemTokens (limit : Nat) {depth : Nat} {later : List Token} :
    (items : List Tree) → depth ≤ limit →
      (Token.withinDepth limit depth (separated (itemTokens items) ++ later) = true ↔
        depth + depthOfItems items ≤ limit ∧ Token.withinDepth limit depth later = true)
  | [], fits => (and_iff_right fits).symm
  | [item], fits => by
      rw [itemTokens, itemTokens, separated, withinDepth_tokens limit item, depthOfItems,
        depthOfItems, Nat.max_zero]
  | item :: second :: others, fits => by
      have deeper : depth + depthOfItems (item :: second :: others) ≤ limit ↔
          depth + item.depth ≤ limit ∧ depth + depthOfItems (second :: others) ≤ limit := by
        rw [depthOfItems]
        omega
      rw [itemTokens, separated_cons_of_ne_nil _ (by simp [itemTokens]), List.append_assoc,
        List.cons_append, withinDepth_tokens limit item, Token.withinDepth_flat fits .comma,
        withinDepth_itemTokens limit (second :: others) fits, deeper, and_assoc]
termination_by items => sizeOf items

/-- Members are within the limit if the deepest is. -/
theorem Tree.withinDepth_memberTokens (limit : Nat) {depth : Nat} {later : List Token} :
    (members : List (List Piece × Tree)) → depth ≤ limit →
      (Token.withinDepth limit depth (separated (memberTokens members) ++ later) = true ↔
        depth + depthOfMembers members ≤ limit ∧ Token.withinDepth limit depth later = true)
  | [], fits => (and_iff_right fits).symm
  | [(name, content)], fits => by
      rw [memberTokens, memberTokens, separated, List.cons_append, List.cons_append,
        Token.withinDepth_flat fits (.string name), Token.withinDepth_flat fits .colon,
        withinDepth_tokens limit content, depthOfMembers, depthOfMembers, Nat.max_zero]
  | (name, content) :: second :: others, fits => by
      have deeper : depth + depthOfMembers ((name, content) :: second :: others) ≤ limit ↔
          depth + content.depth ≤ limit ∧ depth + depthOfMembers (second :: others) ≤ limit := by
        rw [depthOfMembers]
        omega
      rw [memberTokens, separated_cons_of_ne_nil _ (by simp [memberTokens]), List.append_assoc,
        List.cons_append, List.cons_append, List.cons_append,
        Token.withinDepth_flat fits (.string name), Token.withinDepth_flat fits .colon,
        withinDepth_tokens limit content, Token.withinDepth_flat fits .comma,
        withinDepth_memberTokens limit (second :: others) fits, deeper, and_assoc]
termination_by members => sizeOf members

end

/-! ## What a tree means -/

mutual

/-- A tree means a value. -/
inductive Tree.Means : Tree → Value → Prop
  | null : Means .null .null
  | bool (value : Bool) : Means (.bool value) (.bool value)
  | number {numeral : Numeral} {number : Number}
      (standsFor : Number.ofNumeral? numeral = some number) :
      Means (.number numeral) (.number number)
  | string {pieces : List Piece} {text : String} (standFor : Piece.StandFor pieces text.toList) :
      Means (.string pieces) (.string text)
  | array {items : List Tree} {values : List Value} (itemsMean : Tree.ItemsMean items values) :
      Means (.array items) (.array values)
  /-- Of several members of one name the last counts. -/
  | object {shown : List (List Piece × Tree)} {given members : List (String × Value)}
      (membersMean : Tree.MembersMean shown given) (keepsLast : KeepsLast given members) :
      Means (.object shown) (.object members)

/-- Items mean values, one by one. -/
inductive Tree.ItemsMean : List Tree → List Value → Prop
  | nil : ItemsMean [] []
  | cons {item : Tree} {value : Value} {items : List Tree} {values : List Value}
      (first : Tree.Means item value) (others : Tree.ItemsMean items values) :
      ItemsMean (item :: items) (value :: values)

/-- Members mean named values, one by one. -/
inductive Tree.MembersMean : List (List Piece × Tree) → List (String × Value) → Prop
  | nil : MembersMean [] []
  | cons {pieces : List Piece} {name : String} {tree : Tree} {value : Value}
      {shown : List (List Piece × Tree)} {given : List (String × Value)}
      (named : Piece.StandFor pieces name.toList) (first : Tree.Means tree value)
      (others : Tree.MembersMean shown given) :
      MembersMean ((pieces, tree) :: shown) ((name, value) :: given)

end

mutual

/-- **The value of a tree is the one that the tree means.** -/
theorem Tree.means_iff : (tree : Tree) → (value : Value) →
    (Value.ofTree? tree = some value ↔ tree.Means value)
  | .null, value => by
      rw [Value.ofTree?, Option.some.injEq]
      exact ⟨by rintro rfl; exact .null, by rintro ⟨⟩; rfl⟩
  | .bool content, value => by
      rw [Value.ofTree?, Option.some.injEq]
      exact ⟨by rintro rfl; exact .bool content, by rintro ⟨⟩; rfl⟩
  | .number numeral, value => by
      rw [Value.ofTree?, Option.map_eq_some_iff]
      constructor
      · rintro ⟨number, standsFor, rfl⟩
        exact .number standsFor
      · rintro ⟨⟩
        exact ⟨_, ‹_›, rfl⟩
  | .string pieces, value => by
      rw [Value.ofTree?, Option.map_eq_some_iff]
      constructor
      · rintro ⟨text, decoded, rfl⟩
        exact .string (decodeString?_eq_some_iff.mp decoded)
      · rintro ⟨⟩
        exact ⟨_, decodeString?_eq_some_iff.mpr ‹_›, rfl⟩
  | .array items, value => by
      rw [Value.ofTree?, Option.map_eq_some_iff]
      constructor
      · rintro ⟨values, read, rfl⟩
        exact .array ((itemsMean_iff items values).mp read)
      · rintro ⟨⟩
        exact ⟨_, (itemsMean_iff items _).mpr ‹_›, rfl⟩
  | .object shown, value => by
      rw [Value.ofTree?, Option.map_eq_some_iff]
      constructor
      · rintro ⟨members, read, rfl⟩
        obtain ⟨given, membersMean, put⟩ := (membersMean_iff shown [] members).mp read
        exact .object membersMean (foldl_putMember_iff.mp put)
      · intro means
        cases means with
        | object membersMean keepsLast =>
          exact ⟨_, (membersMean_iff shown [] _).mpr
            ⟨_, membersMean, foldl_putMember_iff.mpr keepsLast⟩, rfl⟩
termination_by tree => sizeOf tree

theorem Tree.itemsMean_iff : (items : List Tree) → (values : List Value) →
    (Value.ofItems? items = some values ↔ Tree.ItemsMean items values)
  | [], values => by
      rw [Value.ofItems?, Option.some.injEq]
      exact ⟨by rintro rfl; exact .nil, by rintro ⟨⟩; rfl⟩
  | item :: others, values => by
      rw [Value.ofItems?]
      constructor
      · intro read
        split at read
        · next value rest first later =>
          cases read
          exact .cons ((means_iff item value).mp first) ((itemsMean_iff others rest).mp later)
        · cases read
      · rintro ⟨⟩
        next value rest first later =>
        rw [(means_iff item value).mpr first, (itemsMean_iff others rest).mpr later]
termination_by items => sizeOf items

/-- Members are put in with what they mean, after those read. -/
theorem Tree.membersMean_iff : (shown : List (List Piece × Tree)) →
    (read members : List (String × Value)) →
    (Value.ofMembers? read shown = some members ↔
      ∃ given, Tree.MembersMean shown given ∧ given.foldl putMember read = members)
  | [], read, members => by
      rw [Value.ofMembers?, Option.some.injEq]
      exact ⟨fun same => ⟨[], .nil, same⟩, by rintro ⟨_, ⟨⟩, same⟩; exact same⟩
  | (pieces, tree) :: others, read, members => by
      rw [Value.ofMembers?]
      constructor
      · intro taken
        split at taken
        · next name value decoded first =>
          obtain ⟨given, membersMean, put⟩ := (membersMean_iff others _ members).mp taken
          exact ⟨(name, value) :: given, .cons (decodeString?_eq_some_iff.mp decoded)
            ((means_iff tree value).mp first) membersMean, put⟩
        · cases taken
      · rintro ⟨_, ⟨⟩, put⟩
        next name value given named first membersMean =>
        rw [decodeString?_eq_some_iff.mpr named, (means_iff tree value).mpr first]
        exact (membersMean_iff others _ members).mpr ⟨given, membersMean, put⟩
termination_by shown => sizeOf shown

end

/-! ## Texts -/

/-- A text is written for a tree of limited depth that means a value. -/
def Value.IsTextOf (value : Value) (text : String) : Prop :=
  ∃ tree : Tree, tree.IsText text.toList ∧ tree.depth ≤ Value.deepest ∧ tree.Means value

/-- **A text is read as the value that it stands for**, and as none if there is none. -/
theorem Value.parse?_eq_some_iff {text : String} {value : Value} :
    Value.parse? text = some value ↔ value.IsTextOf text := by
  have whole : ∀ tree : Tree,
      (Token.withinDepth deepest 0 tree.tokens = true ↔ tree.depth ≤ deepest) := by
    intro tree
    have counted := @withinDepth_tokens deepest 0 [] tree
    rw [List.append_nil, Nat.zero_add] at counted
    exact counted.trans (and_iff_left rfl)
  rw [Value.parse?]
  constructor
  · intro parsed
    split at parsed
    · cases parsed
    · next tokens scanned =>
      split at parsed
      · next shallow =>
        obtain ⟨tree, assembled, read⟩ := Option.bind_eq_some_iff.mp parsed
        rw [Tree.ofTokens?_eq_some_iff] at assembled
        subst assembled
        exact ⟨tree, Tree.isText_iff.mpr scanned, (whole tree).mp shallow,
          (means_iff tree value).mp read⟩
      · cases parsed
  · rintro ⟨tree, isText, shallow, means⟩
    rw [Tree.isText_iff.mp isText]
    simp only [if_pos ((whole tree).mpr shallow), ofTokens?_tokens, Option.bind_some]
    exact (means_iff tree value).mpr means

/-- A text stands for one value only. -/
theorem Value.IsTextOf.unique {text : String} {one other : Value} (first : one.IsTextOf text)
    (second : other.IsTextOf text) : one = other :=
  Option.some.inj ((parse?_eq_some_iff.mpr first).symm.trans (parse?_eq_some_iff.mpr second))

end ElectionReadiness.Json
