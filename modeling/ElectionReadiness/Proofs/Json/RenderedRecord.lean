import ElectionReadiness.Proofs.Json.PieceMeaning
import ElectionReadiness.Proofs.Json.WrittenRecord

/-!
# How records may be rendered

Which trees render a content, whoever wrote them.  A record may be rendered as an array of
all its fields in order, or as an object (`Tree.IsRecord`).  In an object the members may
have any order, and members of other names may stand between them, whatever they hold.  A
field of the record comes once at most; what it holds renders the content of the field; and
only a content that is missing may be left out (`Field.IsGivenIn`).

Reading a record finds exactly what such a tree renders: the contents of the fields
(`Tree.isRecord_iff`), and from them strings, numbers and lists (`Reads`).
-/

set_option autoImplicit false

namespace ElectionReadiness.Json

variable {α : Type}

/-! ## Contents -/

/-- A string is rendered by pieces that stand for it. -/
inductive Tree.IsString : String → Tree → Prop
  | string {text : String} {pieces : List Piece} (standFor : Piece.StandFor pieces text.toList) :
      IsString text (.string pieces)

/-- A number is rendered by its digits, without sign, point and exponent. -/
inductive Tree.IsWord : UInt32 → Tree → Prop
  | digits {count : UInt32} {digits : List Char} (value : Decimal.value digits = count.toNat) :
      IsWord count (.number ⟨false, digits, [], none⟩)

/-- A list is rendered by an array of what renders its items, in order. -/
inductive Tree.IsList (renders : α → Tree → Prop) : List α → Tree → Prop
  | array {contents : List α} {items : List Tree} (each : List.Forall₂ renders contents items) :
      IsList renders contents (.array items)

/-! ## Fields -/

/-- A field of a record with what is to be rendered there. -/
structure Field where
  name : String
  /-- The content is rendered by a tree. -/
  IsRenderedBy : Tree → Prop
  /-- The field may be left out of an object. -/
  mayBeLeftOut : Prop

namespace Field

/-- A field whose content is there. -/
def required (name : String) (renders : α → Tree → Prop) (content : α) : Field where
  name := name
  IsRenderedBy := renders content
  mayBeLeftOut := False

/-- A field whose content may be missing; that is null, or left out. -/
def optional (name : String) (renders : α → Tree → Prop) (content : Option α) : Field where
  name := name
  IsRenderedBy tree :=
    match content with
    | none => tree = .null
    | some present => renders present tree
  mayBeLeftOut := content = none

/-- The members of an object give a field its content. -/
structure IsGivenIn (field : Field) (members : List (String × Tree)) : Prop where
  once : (members.map Prod.fst).count field.name ≤ 1
  renders : ∀ tree, (field.name, tree) ∈ members → field.IsRenderedBy tree
  present : field.mayBeLeftOut ∨ ∃ tree, (field.name, tree) ∈ members

/-- What is found in a field renders its content. -/
def Admits (field : Field) : Option Tree → Prop
  | none => field.mayBeLeftOut
  | some tree => field.IsRenderedBy tree

end Field

/-! ## Records -/

/-- Members whose names stand for texts. -/
def AreNamed (spelled : List (List Piece × Tree)) (members : List (String × Tree)) : Prop :=
  List.Forall₂ (fun piecewise member => Piece.StandFor piecewise.1 member.1.toList ∧
    piecewise.2 = member.2) spelled members

/-- A record is rendered by an array or by an object. -/
inductive Tree.IsRecord (fields : List Field) : Tree → Prop
  | array {items : List Tree} (each : List.Forall₂ Field.IsRenderedBy fields items) :
      IsRecord fields (.array items)
  | object {spelled : List (List Piece × Tree)} {members : List (String × Tree)}
      (named : AreNamed spelled members) (given : ∀ field ∈ fields, field.IsGivenIn members) :
      IsRecord fields (.object spelled)

theorem Tree.named?_eq_some_iff {spelled : List (List Piece × Tree)}
    {members : List (String × Tree)} :
    Tree.named? spelled = some members ↔ AreNamed spelled members := by
  induction spelled generalizing members with
  | nil => simp [Tree.named?, AreNamed, eq_comm]
  | cons first others ih =>
      rw [AreNamed, List.forall₂_cons_left_iff]
      constructor
      · intro named
        unfold Tree.named? at named
        split at named
        · next name later decoded namedLater =>
          cases named
          exact ⟨_, _, ⟨decodeString?_eq_some_iff.mp decoded, rfl⟩, ih.mp namedLater, rfl⟩
        · cases named
      · rintro ⟨⟨name, content⟩, later, ⟨standFor, rfl⟩, namedLater, rfl⟩
        rw [Tree.named?, decodeString?_eq_some_iff.mpr standFor, ih.mpr namedLater]

/-- A field is found in members with what renders its content if they give it to it. -/
theorem Field.exists_admits_iff {field : Field} {members : List (String × Tree)} :
    (∃ content, Tree.fieldOf? members field.name = some content ∧ field.Admits content) ↔
      field.IsGivenIn members := by
  have mem_iff : ∀ tree, (field.name, tree) ∈ members ↔
      (field.name, tree) ∈ members.filter fun member => member.1 == field.name := by
    simp
  have same_name : ∀ member ∈ members.filter (fun member => member.1 == field.name),
      member = (field.name, member.2) := by
    intro member mem
    rw [← eq_of_beq (List.mem_filter.mp mem).2]
  have count_eq : (members.map Prod.fst).count field.name =
      (members.filter fun member => member.1 == field.name).length := by
    rw [List.count, List.countP_map, List.countP_eq_length_filter]
    rfl
  -- Either no member has the name of the field, or one has it, or several.
  rcases alike : members.filter (fun member => member.1 == field.name) with
    _ | ⟨member, _ | ⟨second, others⟩⟩
  · rw [Tree.fieldOf?, alike]
    simp only [alike, List.not_mem_nil, iff_false] at mem_iff
    constructor
    · rintro ⟨_, ⟨⟩, leftOut⟩
      exact ⟨by simp [count_eq, alike], fun tree mem => absurd mem (mem_iff tree), .inl leftOut⟩
    · rintro ⟨_, _, leftOut | ⟨tree, mem⟩⟩
      · exact ⟨none, rfl, leftOut⟩
      · exact absurd mem (mem_iff tree)
  · rw [Tree.fieldOf?, alike]
    have named : member = (field.name, member.2) := same_name member (by simp [alike])
    simp only [alike, List.mem_singleton] at mem_iff
    constructor
    · rintro ⟨_, ⟨⟩, renders⟩
      refine ⟨by simp [count_eq, alike], ?_, .inr ⟨member.2, (mem_iff _).mpr named.symm⟩⟩
      intro tree mem
      rw [← (mem_iff tree).mp mem] at renders
      exact renders
    · rintro ⟨_, renders, _⟩
      exact ⟨some member.2, rfl, renders _ ((mem_iff _).mpr named.symm)⟩
  · rw [Tree.fieldOf?, alike]
    constructor
    · rintro ⟨_, ⟨⟩, _⟩
    · rintro ⟨once, _, _⟩
      rw [count_eq, alike] at once
      simp at once

/-- Reading the fields of an object finds what renders their contents. -/
theorem Field.exists_contents_iff {fields : List Field} {members : List (String × Tree)} :
    (∃ contents, (fields.map Field.name).mapM (Tree.fieldOf? members) = some contents ∧
        List.Forall₂ Field.Admits fields contents) ↔
      ∀ field ∈ fields, field.IsGivenIn members := by
  induction fields with
  | nil => simp
  | cons field others ih =>
      rw [List.forall_mem_cons, ← ih, ← exists_admits_iff]
      constructor
      · rintro ⟨contents, found, admits⟩
        simp only [List.map_cons, List.mapM_cons, Option.bind_eq_bind,
          Option.bind_eq_some_iff, Option.pure_def, Option.some.injEq] at found
        obtain ⟨content, foundHere, later, foundLater, rfl⟩ := found
        obtain ⟨here, rest⟩ := List.forall₂_cons.mp admits
        exact ⟨⟨content, foundHere, here⟩, later, foundLater, rest⟩
      · rintro ⟨⟨content, foundHere, here⟩, later, foundLater, rest⟩
        refine ⟨content :: later, ?_, .cons here rest⟩
        rw [List.map_cons, List.mapM_cons, foundHere, foundLater]
        rfl

/-- **A tree renders a record if what is found in its fields renders their contents.** -/
theorem Tree.isRecord_iff {fields : List Field} {tree : Tree} :
    tree.IsRecord fields ↔ ∃ contents, tree.fields? (fields.map Field.name) = some contents ∧
      List.Forall₂ Field.Admits fields contents := by
  constructor
  · rintro (each | ⟨named, given⟩)
    · refine ⟨_, if_pos ?_, List.forall₂_map_right_iff.mpr each⟩
      rw [List.length_map, each.length_eq]
    · obtain ⟨contents, found, admits⟩ := Field.exists_contents_iff.mpr given
      refine ⟨contents, ?_, admits⟩
      rw [Tree.fields?, named?_eq_some_iff.mpr named, Option.bind_some, found]
  · rintro ⟨contents, found, admits⟩
    unfold Tree.fields? at found
    split at found
    · split at found
      · cases found
        have each := (List.forall₂_map_right_iff (f := some)).mp admits
        exact .array each
      · cases found
    · obtain ⟨members, named, found⟩ := Option.bind_eq_some_iff.mp found
      exact .object (named?_eq_some_iff.mp named)
        (Field.exists_contents_iff.mp ⟨contents, found, admits⟩)
    · cases found

/-! ## Reading contents -/

/-- Reading a tree gives the content that it renders, and fails if there is none; null renders
none. -/
structure Reads (read? : Tree → Option α) (renders : α → Tree → Prop) : Prop where
  reads_iff : ∀ tree content, read? tree = some content ↔ renders content tree
  null : read? .null = none

variable {read? : Tree → Option α} {renders : α → Tree → Prop}

theorem reads_string : Reads Tree.string? Tree.IsString where
  reads_iff := by
    intro tree text
    constructor
    · intro read
      unfold Tree.string? at read
      split at read
      · exact .string (decodeString?_eq_some_iff.mp read)
      · cases read
    · rintro ⟨standFor⟩
      exact decodeString?_eq_some_iff.mpr standFor
  null := rfl

/-- A numeral that stands for a natural number has digits only. -/
theorem Numeral.whole?_eq_ofNat_iff {numeral : Numeral} {n : Nat} (fits : n ≤ largestWord) :
    numeral.whole? = some (.ofNat n) ↔
      ∃ digits, numeral = ⟨false, digits, [], none⟩ ∧ Decimal.value digits = n := by
  constructor
  · intro whole
    obtain ⟨negative, digits, fraction, exponent⟩ := numeral
    unfold Numeral.whole? at whole
    split at whole
    · cases whole
    · next digitsOnly =>
      simp only [Bool.or_eq_true, Bool.not_eq_true', List.isEmpty_eq_false_iff,
        Option.isSome_iff_ne_none, not_or, not_not] at digitsOnly
      obtain ⟨rfl, rfl⟩ := digitsOnly
      dsimp only at whole
      split at whole
      · split at whole
        · cases whole
        · next notZero =>
          simp only [Option.some.injEq, Int.ofNat_eq_natCast] at whole
          simp only [Bool.or_eq_true, decide_eq_true_eq, not_or] at notZero
          omega
      · next positive =>
        split at whole
        · simp only [Option.some.injEq, Int.ofNat_eq_natCast, Int.natCast_inj] at whole
          simp only [Bool.not_eq_true] at positive
          exact ⟨digits, by rw [positive], whole⟩
        · cases whole
  · rintro ⟨digits, rfl, rfl⟩
    simp only [Numeral.whole?, if_pos fits]
    rfl

theorem reads_word : Reads Tree.word? Tree.IsWord where
  reads_iff := by
    intro tree count
    have fits : count.toNat ≤ largestWord := by
      have := count.toNat_lt_size
      simp only [largestWord, UInt32.size] at *
      omega
    constructor
    · intro read
      unfold Tree.word? at read
      split at read
      · split at read
        · next numeral n whole =>
          split at read
          · next small =>
            cases read
            have toNat : (UInt32.ofNat n).toNat = n := UInt32.toNat_ofNat_of_lt' small
            rw [toNat] at fits
            obtain ⟨digits, rfl, value⟩ := (Numeral.whole?_eq_ofNat_iff fits).mp whole
            exact .digits (value.trans toNat.symm)
          · cases read
        · cases read
      · cases read
    · rintro ⟨value⟩
      have whole := (Numeral.whole?_eq_ofNat_iff fits).mpr ⟨_, rfl, value⟩
      simp only [Tree.word?, whole, if_pos count.toNat_lt_size, UInt32.ofNat_toNat]
  null := rfl

/-- A function collects results if it succeeds on all items. -/
theorem mapM_eq_some_iff {β : Type} {f : β → Option α} {items : List β} {results : List α} :
    items.mapM f = some results ↔
      List.Forall₂ (fun item result => f item = some result) items results := by
  refine ⟨?_, mapM_eq_some_of_forall₂⟩
  intro collected
  induction items generalizing results with
  | nil =>
      cases collected
      exact .nil
  | cons item others ih =>
      simp only [List.mapM_cons, Option.bind_eq_bind, Option.bind_eq_some_iff, Option.pure_def,
        Option.some.injEq] at collected
      obtain ⟨result, here, later, collectedLater, rfl⟩ := collected
      exact .cons here (ih collectedLater)

theorem Reads.list (items : Reads read? renders) :
    Reads (Tree.list? read?) (Tree.IsList renders) where
  reads_iff := by
    intro tree contents
    constructor
    · intro read
      unfold Tree.list? at read
      split at read
      · have each := mapM_eq_some_iff.mp read
        simp only [items.reads_iff] at each
        exact .array each.flip
      · cases read
    · rintro ⟨each⟩
      refine mapM_eq_some_iff.mpr ?_
      simp only [items.reads_iff]
      exact each.flip
  null := rfl

/-! ## Reading fields -/

theorem Reads.required (contents : Reads read? renders) {name : String} {found : Option Tree}
    {content : α} :
    Tree.required? read? found = some content ↔
      (Field.required name renders content).Admits found := by
  cases found with
  | none =>
      constructor
      · intro read
        cases read
      · intro missing
        cases missing
  | some tree => exact contents.reads_iff tree content

theorem Reads.optional (contents : Reads read? renders) {name : String} {found : Option Tree}
    {content : Option α} :
    Tree.optional? read? found = some content ↔
      (Field.optional name renders content).Admits found := by
  have null : ∀ present, ¬renders present .null := by
    intro present renders
    rw [← contents.reads_iff, contents.null] at renders
    cases renders
  unfold Tree.optional?
  -- What is found is nothing, null or something else.
  split
  · simp [Field.Admits, Field.optional, eq_comm]
  · cases content with
    | none => simp [Field.Admits, Field.optional]
    | some present => simp [Field.Admits, Field.optional, null]
  · next tree notNull =>
    cases content with
    | none => simpa [Field.Admits, Field.optional] using notNull
    | some present =>
        rw [Option.map_eq_some_iff]
        simp only [Option.some.injEq, exists_eq_right, contents.reads_iff]
        rfl

end ElectionReadiness.Json
