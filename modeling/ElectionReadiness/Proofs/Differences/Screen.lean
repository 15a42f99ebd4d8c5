import ElectionReadiness.Differences.Basic
import ElectionReadiness.Proofs.Text.FullLines

/-!
# What a terminal shows of differences

A terminal reads codes that change its colour out of a printed text and shows the stretches
between them.  `keptLines` are the lines that are left when only some colours are looked at; what
has no colour is always seen.  Of printed changes exactly the lines of the changes in these
colours are left (`fullLines_keptText`), as long as no line holds a code itself.
-/

set_option autoImplicit false

namespace ElectionReadiness.Differences

open Text (full fullLines)

/-! ## Colours on a screen -/

inductive Colour where
  | red
  | green
  deriving DecidableEq, Repr

/-- The number that a terminal knows a colour by. -/
def Colour.code : Colour → List Char
  | red => ['9', '1']
  | green => ['9', '2']

/-- The colour that a code changes to; any other code ends the colour. -/
def Colour.ofCode? (code : List Char) : Option Colour :=
  [red, green].find? fun colour => code == '[' :: colour.code

/-- What stands after an escape character: a code up to its last letter, and the stretch that is
shown in its colour. -/
def stretch (piece : List Char) : Option Colour × List Char :=
  (Colour.ofCode? (piece.takeWhile (· != 'm')), (piece.dropWhile (· != 'm')).drop 1)

/-- The stretches of a printed text. -/
def stretches (printed : List Char) : List (Option Colour × List Char) :=
  match Text.split '\x1b' printed with
  | [] => []
  | first :: pieces => (none, first) :: pieces.map stretch

/-- A stretch, if its colour is looked at. -/
def seen (colours : List Colour) : Option Colour × List Char → List Char
  | (none, shown) => shown
  | (some colour, shown) => if colour ∈ colours then shown else []

/-- What is left of a printed text when only some colours are looked at. -/
def keptText (colours : List Colour) (printed : List Char) : List Char :=
  (stretches printed).flatMap (seen colours)

/-- The lines that are left of a printed text when only some colours are looked at. -/
def keptLines (colours : List Colour) (printed : String) : List Line :=
  fullLines (keptText colours printed.toList)

/-! ## Reading what was printed -/

variable (colours : List Colour)

theorem keptText_append {text : List Char} (free : '\x1b' ∉ text) (rest : List Char) :
    keptText colours (text ++ rest) = text ++ keptText colours rest := by
  cases parts : Text.split '\x1b' rest with
  | nil => exact absurd parts (Text.split_ne_nil '\x1b' rest)
  | cons first pieces =>
      rw [keptText, keptText, stretches, stretches, Text.split_append_of_notMem free parts, parts]
      simp only [List.flatMap_cons, seen, List.append_assoc]

/-- Lines in a colour are a stretch, after which the screen goes on without a colour. -/
theorem keptText_coloured (colour : Colour) {text : List Char} (free : '\x1b' ∉ text)
    (rest : List Char) :
    keptText colours (coloured colour.code text ++ rest) =
      seen colours (some colour, text) ++ keptText colours rest := by
  cases parts : Text.split '\x1b' rest with
  | nil => exact absurd parts (Text.split_ne_nil '\x1b' rest)
  | cons first pieces =>
      have printed : coloured colour.code text ++ rest =
          '\x1b' :: ('[' :: colour.code ++ 'm' :: text) ++ '\x1b' :: (['[', '0', 'm'] ++ rest) := by
        simp [coloured]
      have inFree : '\x1b' ∉ '[' :: colour.code ++ 'm' :: text := by
        cases colour <;> simpa [Colour.code] using free
      have outFree : '\x1b' ∉ ['[', '0', 'm'] := by decide
      have inColour : stretch ('[' :: colour.code ++ 'm' :: text) = (some colour, text) := by
        cases colour <;> rfl
      have outOfColour : stretch (['[', '0', 'm'] ++ first) = (none, first) := rfl
      have pieces_eq : Text.split '\x1b' (coloured colour.code text ++ rest) =
          [] :: ('[' :: colour.code ++ 'm' :: text) :: (['[', '0', 'm'] ++ first) :: pieces := by
        rw [printed, Text.split_append_mark, Text.split, if_pos rfl, Text.split_of_notMem inFree,
          Text.split_append_of_notMem outFree parts]
        rfl
      simp only [keptText, stretches, pieces_eq, parts, List.map_cons, inColour, outOfColour,
        List.flatMap_cons, seen, List.nil_append]

/-! ## The text of lines -/

theorem foldl_line_eq_join {text : Line} (something : text ≠ []) (lines : List Line) :
    lines.foldl (fun text line => if text.isEmpty then line else text ++ '\n' :: line) text =
      Text.join '\n' (text :: lines) := by
  induction lines generalizing text with
  | nil => rfl
  | cons line later ih =>
      have started : text.isEmpty = false := by simpa using something
      rw [List.foldl_cons, started, if_neg Bool.false_ne_true,
        ih (List.append_ne_nil_of_left_ne_nil something _)]
      cases later with
      | nil => rfl
      | cons next later => simp only [Text.join, List.append_assoc, List.cons_append]

/-- The text of lines is what the lines are put together to, but for empty ones at the start. -/
theorem lineText_eq_join (lines : List Line) :
    lineText lines = Text.join '\n' (lines.dropWhile List.isEmpty) := by
  induction lines with
  | nil => rfl
  | cons line later ih =>
      cases line with
      | nil => exact ih
      | cons c rest => exact foldl_line_eq_join (List.cons_ne_nil c rest) later

theorem full_dropWhile_isEmpty (lines : List Line) :
    full (lines.dropWhile List.isEmpty) = full lines := by
  induction lines with
  | nil => rfl
  | cons line later ih =>
      cases line with
      | nil => exact ih
      | cons c rest => rfl

/-- The full lines of the text of lines are those of the lines that hold something. -/
theorem fullLines_lineText {lines : List Line} (free : ∀ line ∈ lines, '\n' ∉ line) :
    fullLines (lineText lines) = full lines := by
  rw [lineText_eq_join, ← full_dropWhile_isEmpty, fullLines]
  have leftFree : ∀ line ∈ lines.dropWhile List.isEmpty, '\n' ∉ line :=
    fun line mem => free line ((List.dropWhile_sublist _).subset mem)
  cases left : lines.dropWhile List.isEmpty with
  | nil => rfl
  | cons line later =>
      rw [left] at leftFree
      rw [Text.split_join (List.cons_ne_nil line later) leftFree]

theorem notMem_lineText {c : Char} (notEnd : c ≠ '\n') {lines : List Line}
    (free : ∀ line ∈ lines, c ∉ line) : c ∉ lineText lines := by
  rw [lineText_eq_join]
  exact Text.notMem_join notEnd fun line mem => free line ((List.dropWhile_sublist _).subset mem)

/-! ## Changes on a screen -/

namespace Change

/-- The lines of a change. -/
def lines : Change → List Line
  | same lines | removed lines | added lines => lines

/-- The colour that a change is shown in. -/
def colour? : Change → Option Colour
  | same _ => none
  | removed _ => some .red
  | added _ => some .green

/-- The lines of a change that hold something, if its colour is looked at. -/
def kept (change : Change) : List Line :=
  match change.colour? with
  | none => full change.lines
  | some colour => if colour ∈ colours then full change.lines else []

/-- A change stands on lines of its own. -/
theorem keptText_write {change : Change} (free : ∀ line ∈ change.lines, '\x1b' ∉ line)
    (rest : List Char) :
    keptText colours (change.write ++ rest) =
      seen colours (change.colour?, lineText change.lines) ++ '\n' :: keptText colours rest := by
  have ended : keptText colours (['\n'] ++ rest) = '\n' :: keptText colours rest :=
    keptText_append colours (by decide) rest
  cases change with
  | same lines =>
      have textFree : '\x1b' ∉ lineText lines := notMem_lineText (by decide) free
      rw [write, List.append_assoc, keptText_append colours textFree, ended]
      rfl
  | removed lines =>
      have textFree : '\x1b' ∉ lineText lines := notMem_lineText (by decide) free
      rw [write, List.append_assoc, ← Colour.code, keptText_coloured colours .red textFree, ended]
      rfl
  | added lines =>
      have textFree : '\x1b' ∉ lineText lines := notMem_lineText (by decide) free
      rw [write, List.append_assoc, ← Colour.code, keptText_coloured colours .green textFree, ended]
      rfl

theorem fullLines_seen {change : Change} (free : ∀ line ∈ change.lines, '\n' ∉ line) :
    fullLines (seen colours (change.colour?, lineText change.lines)) = change.kept colours := by
  rw [kept]
  cases change.colour? with
  | none => exact fullLines_lineText free
  | some colour =>
      simp only [seen]
      split
      · exact fullLines_lineText free
      · rfl

end Change

/-- Lines that can be shown: they hold neither a line end nor a code. -/
def AreShowable (lines : List Line) : Prop := ∀ line ∈ lines, '\n' ∉ line ∧ '\x1b' ∉ line

/-- **Of printed changes the lines in the colours that are looked at are left.** -/
theorem fullLines_keptText {changes : List Change}
    (showable : ∀ change ∈ changes, AreShowable change.lines) :
    fullLines (keptText colours (changes.flatMap Change.write ++ ['\n'])) =
      changes.flatMap (Change.kept colours) := by
  induction changes with
  | nil =>
      have endFree : '\x1b' ∉ ['\n'] := by decide
      have ended : keptText colours ['\n'] = ['\n'] := keptText_append colours endFree []
      rw [List.flatMap_nil, List.nil_append, ended]
      rfl
  | cons change later ih =>
      obtain ⟨first, others⟩ := List.forall_mem_cons.mp showable
      have written := Change.keptText_write colours fun line mem => (first line mem).2
      rw [List.flatMap_cons, List.append_assoc, written, Text.fullLines_append, ih others,
        Change.fullLines_seen colours fun line mem => (first line mem).1, List.flatMap_cons]

end ElectionReadiness.Differences
