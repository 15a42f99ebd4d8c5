import ElectionReadiness.Differences.CommonLines

/-!
# Differences between texts

Two texts are shown as one, in which the lines that only the first has are marked as
removed and those that only the second has as added.  Lines count as the same when the
search for common lines has found them.
-/

set_option autoImplicit false

namespace ElectionReadiness.Differences

/-- A run of lines of one kind. -/
inductive Change where
  | same (lines : List Line)
  | removed (lines : List Line)
  | added (lines : List Line)
  deriving DecidableEq, Repr

/-- Lines as one text.  Empty lines at the start leave no trace. -/
def lineText (lines : List Line) : List Char :=
  lines.foldl (fun text line => if text.isEmpty then line else text ++ '\n' :: line) []

/-- A change, unless it has no text. -/
def unlessEmpty (change : List Line → Change) (lines : List Line) : List Change :=
  if (lineText lines).isEmpty then [] else [change lines]

/-- Splits a text at the first line equal to a given one, which is left out. -/
def splitAt (line : Line) (text : List Line) : List Line × List Line :=
  (text.takeWhile (· != line), (text.dropWhile (· != line)).drop 1)

/-- Goes through the common lines; `held` are those since the last difference. -/
def merge (held first second : List Line) : List Line → List Change
  | [] =>
    unlessEmpty .same held ++ unlessEmpty .removed first ++ unlessEmpty .added second
  | line :: later =>
    let (gone, firstLeft) := splitAt line first
    let (new, secondLeft) := splitAt line second
    if (lineText gone).isEmpty && (lineText new).isEmpty then
      merge (held ++ [line]) firstLeft secondLeft later
    else
      .same held :: (unlessEmpty .removed gone ++ unlessEmpty .added new
        ++ merge [line] firstLeft secondLeft later)

/-- The changes from one text to another. -/
def changes (first second : List Char) : List Change :=
  let firstLines := Text.split '\n' first
  let secondLines := Text.split '\n' second
  merge [] firstLines secondLines (Text.split '\n' (commonText firstLines secondLines))

/-! ## Showing changes -/

/-- Puts a text in a colour of the terminal. -/
def coloured (colour : List Char) (text : List Char) : List Char :=
  '\x1b' :: '[' :: colour ++ 'm' :: text ++ ['\x1b', '[', '0', 'm']

/-- A change as it is shown: removed lines in red, added lines in green. -/
def Change.write : Change → List Char
  | same lines => lineText lines ++ ['\n']
  | removed lines => coloured ['9', '1'] (lineText lines) ++ ['\n']
  | added lines => coloured ['9', '2'] (lineText lines) ++ ['\n']

/-- All changes from one text to another, as they are shown. -/
def text (first second : String) : String :=
  String.ofList ((changes first.toList second.toList).flatMap Change.write ++ ['\n'])

end ElectionReadiness.Differences
