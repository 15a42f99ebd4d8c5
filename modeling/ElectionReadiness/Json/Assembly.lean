import ElectionReadiness.Json.Tree

/-!
# Putting tokens together

The tree of a row of tokens.  The tokens are taken one by one, and what is still open is
kept on a stack of frames, so that arrays and objects may lie in each other to any
depth.  `Tree.ofTokens?_tokens` says that the tokens of a tree give it back.
-/

set_option autoImplicit false

namespace ElectionReadiness.Json

/-- An array or an object in the middle of which a value stands. -/
inductive Frame where
  /-- The items before it, backwards. -/
  | array (before : List Tree)
  /-- The members before it, backwards, and its own name. -/
  | object (before : List (List Piece × Tree)) (name : List Piece)

/-- How far a row of tokens has been put together, with the frames that are open,
the innermost first. -/
inductive Assembly where
  /-- A value must follow. -/
  | beforeValue (frames : List Frame)
  /-- After an opening bracket: the first item, or the end. -/
  | afterBracket (frames : List Frame)
  /-- After an opening brace: the first name, or the end. -/
  | afterBrace (frames : List Frame)
  /-- After the comma in an object: a name must follow. -/
  | beforeName (before : List (List Piece × Tree)) (frames : List Frame)
  /-- After a name: the colon must follow. -/
  | afterName (before : List (List Piece × Tree)) (name : List Piece) (frames : List Frame)
  /-- After a value. -/
  | afterValue (value : Tree) (frames : List Frame)

namespace Assembly

/-- Starts a value. -/
def startValue? (frames : List Frame) : Token → Option Assembly
  | .null => some (.afterValue .null frames)
  | .bool value => some (.afterValue (.bool value) frames)
  | .number spelled => some (.afterValue (.number spelled) frames)
  | .string spelled => some (.afterValue (.string spelled) frames)
  | .openBracket => some (.afterBracket frames)
  | .openBrace => some (.afterBrace frames)
  | _ => none

/-- Goes on after a value. -/
def continue? (value : Tree) : List Frame → Token → Option Assembly
  | .array before :: frames, .comma => some (.beforeValue (.array (value :: before) :: frames))
  | .array before :: frames, .closeBracket =>
    some (.afterValue (.array (value :: before).reverse) frames)
  | .object before name :: frames, .comma => some (.beforeName ((name, value) :: before) frames)
  | .object before name :: frames, .closeBrace =>
    some (.afterValue (.object ((name, value) :: before).reverse) frames)
  | _, _ => none

/-- Takes one token. -/
def step? : Assembly → Token → Option Assembly
  | .beforeValue frames, token => startValue? frames token
  | .afterBracket frames, .closeBracket => some (.afterValue (.array []) frames)
  | .afterBracket frames, token => startValue? (.array [] :: frames) token
  | .afterBrace frames, .closeBrace => some (.afterValue (.object []) frames)
  | .afterBrace frames, .string name => some (.afterName [] name frames)
  | .beforeName before frames, .string name => some (.afterName before name frames)
  | .afterName before name frames, .colon => some (.beforeValue (.object before name :: frames))
  | .afterValue value frames, token => continue? value frames token
  | _, _ => none

/-- Takes tokens one after the other. -/
def run? (state : Assembly) (tokens : List Token) : Option Assembly := tokens.foldlM step? state

/-- The tree, if all that was opened has been closed. -/
def result? : Assembly → Option Tree
  | .afterValue value [] => some value
  | _ => none

end Assembly

/-- The tree of a row of tokens. -/
def Tree.ofTokens? (tokens : List Token) : Option Tree :=
  (Assembly.run? (.beforeValue []) tokens).bind Assembly.result?

/-! ## The tokens of a tree give the tree back -/

namespace Assembly

theorem run?_cons (state : Assembly) (token : Token) (later : List Token) :
    state.run? (token :: later) = (state.step? token).bind fun next => next.run? later := rfl

theorem run?_append (state : Assembly) (first later : List Token) :
    state.run? (first ++ later) = (state.run? first).bind fun next => next.run? later := by
  simp only [run?, List.foldlM_append]
  rfl

/-- A value may start, and ends inside these frames. -/
inductive AwaitsValue : Assembly → List Frame → Prop where
  | value (frames : List Frame) : AwaitsValue (.beforeValue frames) frames
  | item (frames : List Frame) : AwaitsValue (.afterBracket frames) (.array [] :: frames)

/-- A name may start, after these members. -/
inductive AwaitsName : Assembly → List (List Piece × Tree) → List Frame → Prop where
  | first (frames : List Frame) : AwaitsName (.afterBrace frames) [] frames
  | next (before : List (List Piece × Tree)) (frames : List Frame) :
    AwaitsName (.beforeName before frames) before frames

theorem AwaitsValue.step? {state : Assembly} {frames : List Frame}
    (awaits : AwaitsValue state frames) {token : Token} (starts : token ≠ .closeBracket) :
    state.step? token = startValue? frames token := by
  cases awaits with
  | value => rfl
  | item => cases token <;> first | rfl | exact absurd rfl starts

theorem AwaitsName.step? {state : Assembly} {before : List (List Piece × Tree)}
    {frames : List Frame} (awaits : AwaitsName state before frames) (name : List Piece) :
    state.step? (.string name) = some (.afterName before name frames) := by
  cases awaits <;> rfl

end Assembly

open Assembly Json.Tree

mutual

/-- The tokens of a tree, where a value may start, put the tree together. -/
theorem run?_tokens (tree : Tree) {state : Assembly} {frames : List Frame}
    (awaits : AwaitsValue state frames) :
    state.run? tree.tokens = some (.afterValue tree frames) := by
  cases tree with
  | null => rw [tokens, run?_cons, awaits.step? (by simp)]; rfl
  | bool value => rw [tokens, run?_cons, awaits.step? (by simp)]; rfl
  | number spelled => rw [tokens, run?_cons, awaits.step? (by simp)]; rfl
  | string spelled => rw [tokens, run?_cons, awaits.step? (by simp)]; rfl
  | array items =>
    rw [tokens, run?_cons, awaits.step? (by simp)]
    cases items with
    | nil => rfl
    | cons item others => exact run?_itemTokens item others [] (.item frames)
  | object members =>
    rw [tokens, run?_cons, awaits.step? (by simp)]
    cases members with
    | nil => rfl
    | cons member others => exact run?_memberTokens member others [] (.first frames)
termination_by sizeOf tree

/-- The tokens of items and a closing bracket put an array together. -/
theorem run?_itemTokens (item : Tree) (others before : List Tree) {state : Assembly}
    {frames : List Frame} (awaits : AwaitsValue state (.array before :: frames)) :
    state.run? (separated (itemTokens (item :: others)) ++ [.closeBracket]) =
      some (.afterValue (.array (before.reverse ++ item :: others)) frames) := by
  cases others with
  | nil =>
    simp only [itemTokens, separated]
    rw [run?_append, run?_tokens item awaits]
    simp [run?, Assembly.step?, continue?]
  | cons second rest =>
    have others := run?_itemTokens second rest (item :: before) (.value (.array (item :: before) :: frames))
    simp only [itemTokens, separated, List.append_assoc, List.cons_append] at others ⊢
    rw [run?_append, run?_tokens item awaits]
    simp only [Option.bind_some, run?_cons, Assembly.step?, continue?]
    rw [others]
    simp
termination_by sizeOf (item :: others)

/-- The tokens of members and a closing brace put an object together. -/
theorem run?_memberTokens (member : List Piece × Tree) (others before : List (List Piece × Tree))
    {state : Assembly} {frames : List Frame} (awaits : AwaitsName state before frames) :
    state.run? (separated (memberTokens (member :: others)) ++ [.closeBrace]) =
      some (.afterValue (.object (before.reverse ++ member :: others)) frames) := by
  obtain ⟨name, value⟩ := member
  have taken : ∀ later : List Token,
      state.run? ((.string name :: .colon :: value.tokens) ++ later) =
        (Assembly.afterValue value (.object before name :: frames)).run? later := by
    intro later
    rw [run?_append, run?_cons, awaits.step? name]
    simp only [Option.bind_some, run?_cons, Assembly.step?]
    rw [run?_tokens value (.value (.object before name :: frames))]
    rfl
  cases others with
  | nil =>
    simp only [memberTokens, separated]
    rw [taken]
    simp [run?, Assembly.step?, continue?]
  | cons second rest =>
    have others := run?_memberTokens second rest ((name, value) :: before)
      (.next ((name, value) :: before) frames)
    obtain ⟨nextName, nextValue⟩ := second
    simp only [memberTokens, separated, List.append_assoc] at others ⊢
    rw [taken]
    simp only [List.cons_append, run?_cons, Assembly.step?, continue?, Option.bind_some]
    rw [others]
    simp
termination_by sizeOf (member :: others)

end

/-- The tokens of a tree give the tree back. -/
theorem Tree.ofTokens?_tokens (tree : Tree) : Tree.ofTokens? tree.tokens = some tree := by
  rw [Tree.ofTokens?, run?_tokens tree (.value [])]
  rfl

end ElectionReadiness.Json
