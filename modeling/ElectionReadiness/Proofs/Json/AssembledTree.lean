import ElectionReadiness.Json.Assembly
import ElectionReadiness.Proofs.Json.Grammar
import ElectionReadiness.Proofs.Json.ScannedToken

/-!
# What is put together is what was written

While tokens are put together, the state holds all that was taken so far: `Assembly.taken`
gives the tokens back, and one step adds the token it takes and loses none
(`Assembly.taken_step?`).  So a tree is put together only from its own tokens
(`Tree.ofTokens?_eq_some_iff`), and a row of these tokens is a text of the grammar
(`Tree.isText_of_isRow`).  With what scanning finds in such texts, the texts of a tree are
exactly those that are scanned as its tokens (`Tree.isText_iff`), and no text is written for
two trees (`Tree.isText_iff_eq`).
-/

set_option autoImplicit false

namespace ElectionReadiness.Json

open Json.Tree

/-! ## The tokens taken so far -/

/-- The tokens of items that are done, backwards, each with its comma. -/
def itemsDone (before : List Tree) : List Token :=
  before.reverse.flatMap fun item => item.tokens ++ [.comma]

/-- The tokens of members that are done, backwards, each with its comma. -/
def membersDone (before : List (List Piece × Tree)) : List Token :=
  before.reverse.flatMap fun member => .string member.1 :: .colon :: member.2.tokens ++ [.comma]

/-- The tokens of a frame up to the value that stands in it. -/
def Frame.taken : Frame → List Token
  | .array before => .openBracket :: itemsDone before
  | .object before name => .openBrace :: (membersDone before ++ [.string name, .colon])

/-- The tokens of frames, the outermost first. -/
def framesTaken (frames : List Frame) : List Token := frames.reverse.flatMap Frame.taken

/-- The tokens that were taken to come to a state. -/
def Assembly.taken : Assembly → List Token
  | .beforeValue frames => framesTaken frames
  | .afterBracket frames => framesTaken frames ++ [.openBracket]
  | .afterBrace frames => framesTaken frames ++ [.openBrace]
  | .beforeName before frames => framesTaken frames ++ .openBrace :: membersDone before
  | .afterName before name frames =>
    framesTaken frames ++ .openBrace :: (membersDone before ++ [.string name])
  | .afterValue value frames => framesTaken frames ++ value.tokens

@[simp]
theorem framesTaken_cons (frame : Frame) (frames : List Frame) :
    framesTaken (frame :: frames) = framesTaken frames ++ frame.taken := by
  simp [framesTaken]

@[simp]
theorem itemsDone_cons (item : Tree) (before : List Tree) :
    itemsDone (item :: before) = itemsDone before ++ (item.tokens ++ [.comma]) := by
  simp [itemsDone]

@[simp]
theorem membersDone_cons (member : List Piece × Tree) (before : List (List Piece × Tree)) :
    membersDone (member :: before) =
      membersDone before ++ (.string member.1 :: .colon :: member.2.tokens ++ [.comma]) := by
  simp [membersDone]

/-- The last of separated lists has no comma. -/
theorem separated_concat (lists : List (List Token)) (last : List Token) :
    separated (lists ++ [last]) = lists.flatMap (· ++ [.comma]) ++ last := by
  induction lists with
  | nil => rfl
  | cons first others ih =>
      rw [List.cons_append, separated_cons_of_ne_nil first (by simp), ih]
      simp

theorem memberTokens_eq_map (members : List (List Piece × Tree)) :
    memberTokens members =
      members.map fun member => .string member.1 :: .colon :: member.2.tokens := by
  induction members with
  | nil => rfl
  | cons member others ih => rw [memberTokens, ih, List.map_cons]

/-- An array is its items up to the last, and the last. -/
theorem tokens_array_concat (before : List Tree) (value : Tree) :
    (Tree.array (value :: before).reverse).tokens =
      .openBracket :: (itemsDone before ++ (value.tokens ++ [.closeBracket])) := by
  rw [tokens, itemTokens_eq_map, List.reverse_cons, List.map_append, List.map_singleton,
    separated_concat, List.flatMap_map, itemsDone]
  simp only [List.append_assoc]

/-- An object is its members up to the last, and the last. -/
theorem tokens_object_concat (before : List (List Piece × Tree)) (name : List Piece)
    (value : Tree) :
    (Tree.object ((name, value) :: before).reverse).tokens =
      .openBrace :: (membersDone before ++
        (.string name :: .colon :: (value.tokens ++ [.closeBrace]))) := by
  rw [tokens, memberTokens_eq_map, List.reverse_cons, List.map_append, List.map_singleton,
    separated_concat, List.flatMap_map, membersDone]
  simp only [List.append_assoc, List.cons_append]

namespace Assembly

theorem taken_startValue? {frames : List Frame} {token : Token} {next : Assembly}
    (starts : startValue? frames token = some next) :
    next.taken = framesTaken frames ++ [token] := by
  cases token <;> cases starts <;> rfl

theorem taken_continue? {value : Tree} {frames : List Frame} {token : Token} {next : Assembly}
    (continues : continue? value frames token = some next) :
    next.taken = framesTaken frames ++ value.tokens ++ [token] := by
  unfold continue? at continues
  split at continues
  · cases continues
    simp [taken, Frame.taken]
  · cases continues
    rw [taken, tokens_array_concat]
    simp [Frame.taken]
  · cases continues
    simp [taken, Frame.taken]
  · cases continues
    rw [taken, tokens_object_concat]
    simp [Frame.taken]
  · cases continues

/-- A step adds the token it takes and loses none. -/
theorem taken_step? {state next : Assembly} {token : Token}
    (steps : state.step? token = some next) : next.taken = state.taken ++ [token] := by
  unfold step? at steps
  split at steps
  · exact taken_startValue? steps
  · cases steps
    simp [taken, tokens, itemTokens, separated]
  · rw [taken_startValue? steps]
    simp [taken, Frame.taken, itemsDone]
  · cases steps
    simp [taken, tokens, memberTokens, separated]
  · cases steps
    simp [taken, membersDone]
  · cases steps
    simp [taken]
  · cases steps
    simp [taken, Frame.taken]
  · exact taken_continue? steps
  · cases steps

theorem taken_run? {tokens : List Token} {state final : Assembly}
    (runs : state.run? tokens = some final) : final.taken = state.taken ++ tokens := by
  induction tokens generalizing state with
  | nil =>
      cases runs
      simp
  | cons token later ih =>
      rw [run?_cons] at runs
      obtain ⟨next, steps, goesOn⟩ := Option.bind_eq_some_iff.mp runs
      rw [ih goesOn, taken_step? steps]
      simp

end Assembly

/-- **A tree is put together from its own tokens and no others.** -/
theorem Tree.ofTokens?_eq_some_iff {tokens : List Token} {tree : Tree} :
    Tree.ofTokens? tokens = some tree ↔ tokens = tree.tokens := by
  constructor
  · intro assembled
    obtain ⟨final, runs, result⟩ := Option.bind_eq_some_iff.mp assembled
    unfold Assembly.result? at result
    split at result
    · cases result
      have taken := Assembly.taken_run? runs
      simpa [Assembly.taken, framesTaken] using taken.symm
    · cases result
  · rintro rfl
    exact ofTokens?_tokens tree

/-! ## Rows of the tokens of a tree

Values, items and members hold each other, so they are taken off a row in one induction, on
their size.  A member counts one more than its value, which is taken off within it. -/

theorem Token.IsRow.uncons {token : Token} {tokens : List Token} {text : List Char}
    (row : Token.IsRow (token :: tokens) text) :
    ∃ blanks written rest, AreBlanks blanks ∧ token.IsWritten written ∧
      Token.IsRow tokens rest ∧ text = blanks ++ (written ++ rest) := by
  cases row with
  | cons blank first later => exact ⟨_, _, _, blank, first, later, rfl⟩

theorem Piece.areQuoted_of_isWritten {pieces : List Piece} {written : List Char}
    (isWritten : (Token.string pieces).IsWritten written) : Piece.AreQuoted pieces written := by
  cases isWritten with
  | string inside => exact .marks inside

mutual

/-- Where the tokens of a value come first, the value is written, after some blanks. -/
theorem Tree.exists_isWritten {later : List Token} {text : List Char} :
    (tree : Tree) → Token.IsRow (tree.tokens ++ later) text →
      ∃ before written rest, AreBlanks before ∧ tree.IsWritten written ∧
        Token.IsRow later rest ∧ text = before ++ (written ++ rest)
  | .null, row => by
      obtain ⟨before, _, rest, blank, ⟨⟩, left, rfl⟩ := row.uncons
      exact ⟨before, _, rest, blank, .null, left, rfl⟩
  | .bool value, row => by
      obtain ⟨before, _, rest, blank, isWritten, left, rfl⟩ := row.uncons
      refine ⟨before, _, rest, blank, ?_, left, rfl⟩
      cases isWritten with
      | yes => exact .yes
      | no => exact .no
  | .number numeral, row => by
      obtain ⟨before, written, rest, blank, isWritten, left, rfl⟩ := row.uncons
      cases isWritten with
      | number isWritten => exact ⟨before, written, rest, blank, .number isWritten, left, rfl⟩
  | .string pieces, row => by
      obtain ⟨before, _, rest, blank, isWritten, left, rfl⟩ := row.uncons
      exact ⟨before, _, rest, blank, .string (Piece.areQuoted_of_isWritten isWritten), left, rfl⟩
  | .array [], row => by
      obtain ⟨before, _, afterBracket, blank, ⟨⟩, inner, rfl⟩ := row.uncons
      obtain ⟨inside, _, rest, blankInside, ⟨⟩, left, rfl⟩ := inner.uncons
      exact ⟨before, _, rest, blank, .emptyArray blankInside, left, by simp⟩
  | .array (item :: others), row => by
      rw [tokens, List.cons_append, List.append_assoc] at row
      obtain ⟨before, _, afterBracket, blank, ⟨⟩, inner, rfl⟩ := row.uncons
      obtain ⟨inside, rest, areItems, left, rfl⟩ := exists_areItems item others inner
      exact ⟨before, _, rest, blank, .array areItems, left, by simp⟩
  | .object [], row => by
      obtain ⟨before, _, afterBrace, blank, ⟨⟩, inner, rfl⟩ := row.uncons
      obtain ⟨inside, _, rest, blankInside, ⟨⟩, left, rfl⟩ := inner.uncons
      exact ⟨before, _, rest, blank, .emptyObject blankInside, left, by simp⟩
  | .object ((name, value) :: others), row => by
      rw [tokens, List.cons_append, List.append_assoc] at row
      obtain ⟨before, _, afterBrace, blank, ⟨⟩, inner, rfl⟩ := row.uncons
      obtain ⟨inside, rest, areMembers, left, rfl⟩ := exists_areMembers name value others inner
      exact ⟨before, _, rest, blank, .object areMembers, left, by simp⟩
termination_by tree => sizeOf tree

/-- Items are written up to the closing bracket. -/
theorem Tree.exists_areItems (item : Tree) (others : List Tree) {later : List Token}
    {text : List Char}
    (row : Token.IsRow (separated (itemTokens (item :: others)) ++ ([.closeBracket] ++ later))
      text) :
    ∃ inside rest, Tree.AreItems (item :: others) inside ∧ Token.IsRow later rest ∧
      text = inside ++ ']' :: rest := by
  cases others with
  | nil =>
      obtain ⟨before, written, afterItem, blank, isWritten, ending, rfl⟩ :=
        exists_isWritten item row
      obtain ⟨after, _, rest, blankAfter, ⟨⟩, left, rfl⟩ := ending.uncons
      exact ⟨_, rest, .last (.blanks blank isWritten blankAfter), left, by simp⟩
  | cons second others =>
      rw [itemTokens, separated_cons_of_ne_nil _ (by simp [itemTokens]), List.append_assoc] at row
      obtain ⟨before, written, afterItem, blank, isWritten, ending, rfl⟩ :=
        exists_isWritten item row
      obtain ⟨after, _, afterComma, blankAfter, ⟨⟩, more, rfl⟩ := ending.uncons
      obtain ⟨inside, rest, areItems, left, rfl⟩ := exists_areItems second others more
      exact ⟨_, rest, .comma (.blanks blank isWritten blankAfter) areItems, left, by simp⟩
termination_by sizeOf (item :: others)

/-- A member is written up to what follows it, and blanks. -/
theorem Tree.exists_isMember (name : List Piece) (value : Tree) {mark : Token}
    {later : List Token} {text : List Char}
    (row : Token.IsRow (.string name :: .colon :: value.tokens ++ mark :: later) text) :
    ∃ member written rest, Tree.IsMember (name, value) member ∧ mark.IsWritten written ∧
      Token.IsRow later rest ∧ text = member ++ (written ++ rest) := by
  obtain ⟨before, quoted, afterName, blank, isWritten, colon, rfl⟩ := row.uncons
  obtain ⟨between, _, afterColon, blankBetween, ⟨⟩, content, rfl⟩ := colon.uncons
  obtain ⟨inner, written, afterValue, blankInner, valueWritten, ending, rfl⟩ :=
    exists_isWritten value content
  obtain ⟨after, closing, rest, blankAfter, markWritten, left, rfl⟩ := ending.uncons
  exact ⟨_, closing, rest, .colon blank (Piece.areQuoted_of_isWritten isWritten) blankBetween
    (.blanks blankInner valueWritten blankAfter), markWritten, left, by simp⟩
termination_by sizeOf value + 1

/-- Members are written up to the closing brace. -/
theorem Tree.exists_areMembers (name : List Piece) (value : Tree)
    (others : List (List Piece × Tree)) {later : List Token} {text : List Char}
    (row : Token.IsRow
      (separated (memberTokens ((name, value) :: others)) ++ ([.closeBrace] ++ later)) text) :
    ∃ inside rest, Tree.AreMembers ((name, value) :: others) inside ∧ Token.IsRow later rest ∧
      text = inside ++ '}' :: rest := by
  match others, row with
  | [], row =>
      obtain ⟨text, _, rest, isMember, ⟨⟩, left, rfl⟩ := exists_isMember name value row
      exact ⟨text, rest, .last isMember, left, rfl⟩
  | (second, content) :: others, row =>
      rw [memberTokens, separated_cons_of_ne_nil _ (by simp [memberTokens]),
        List.append_assoc] at row
      obtain ⟨text, _, afterComma, isMember, ⟨⟩, more, rfl⟩ := exists_isMember name value row
      obtain ⟨inside, rest, areMembers, left, rfl⟩ := exists_areMembers second content others more
      exact ⟨_, rest, .comma isMember areMembers, left, by simp⟩
termination_by sizeOf ((name, value) :: others)

end

/-- **A row of the tokens of a tree is a text of the tree.** -/
theorem Tree.isText_of_isRow {tree : Tree} {text : List Char}
    (row : Token.IsRow tree.tokens text) : tree.IsText text := by
  rw [← List.append_nil tree.tokens] at row
  obtain ⟨before, written, after, blank, isWritten, ending, rfl⟩ := exists_isWritten tree row
  cases ending with
  | nil blankAfter => exact .blanks blank isWritten blankAfter

/-- **The texts of a tree are those that are scanned as its tokens.** -/
theorem Tree.isText_iff {tree : Tree} {text : List Char} :
    tree.IsText text ↔ Token.scanAll? text = some tree.tokens :=
  ⟨Token.scanAll?_of_isText, fun scanned => isText_of_isRow (Token.isRow_of_scanAll? scanned)⟩

/-- The tree that is read from a text is the one that the text is written for. -/
theorem Tree.parsed_iff {text : List Char} {tree : Tree} :
    (Token.scanAll? text).bind Tree.ofTokens? = some tree ↔ tree.IsText text := by
  rw [isText_iff, Option.bind_eq_some_iff]
  constructor
  · rintro ⟨tokens, scanned, assembled⟩
    rw [scanned, ofTokens?_eq_some_iff.mp assembled]
  · intro scanned
    exact ⟨tree.tokens, scanned, ofTokens?_tokens tree⟩

/-- A text is written for one tree only. -/
theorem Tree.isText_iff_eq {tree other : Tree} {text : List Char} (isText : tree.IsText text) :
    other.IsText text ↔ other = tree := by
  rw [← parsed_iff, parsed_iff.mpr isText, Option.some.injEq, eq_comm]

end ElectionReadiness.Json
