import ElectionReadiness.Text.Split

/-!
# Lines that two texts have in common

The search goes on two texts at once, over more and more lines that only one of them
has.  A path is how far it has come in both; in each round every path goes on by one
line of one text and then along the lines that are equal.  Of every round the equal
lines of the path that came farthest in the first text are counted as common.
-/

set_option autoImplicit false

namespace ElectionReadiness.Differences

/-- A line of a text. -/
abbrev Line : Type := List Char

/-- How far a search has come. -/
structure Path where
  /-- How many steps were taken in the first text. -/
  reached : Nat
  /-- What is left of the first text. -/
  first : List Line
  /-- What is left of the second text. -/
  second : List Line
  deriving Repr

namespace Path

/-- The lines at the front of both texts that are equal. -/
def equalLines : List Line → List Line → List Line
  | one :: ones, other :: others => if one = other then one :: equalLines ones others else []
  | _, _ => []

/-- Goes along equal lines. -/
def slide (path : Path) : Path × List Line :=
  let equal := equalLines path.first path.second
  (⟨path.reached + equal.length, path.first.drop equal.length, path.second.drop equal.length⟩,
    equal)

/-- Goes on by a line of the first text. -/
def takeFirst (path : Path) : Path := ⟨path.reached + 1, path.first.drop 1, path.second⟩

/-- Goes on by a line of the second text. -/
def takeSecond (path : Path) : Path := ⟨path.reached, path.first, path.second.drop 1⟩

/-- Both texts are at their end. -/
def isDone (path : Path) : Bool := path.first.isEmpty && path.second.isEmpty

end Path

/-- The path of the next round between two of the last: the one that comes farther in
the first text. -/
def between : Option Path → Option Path → Option Path
  | none, none => none
  | none, some above => some above.takeSecond
  | some below, none => some below.takeFirst
  | some below, some above =>
    if below.reached < above.reached then some above.takeSecond else some below.takeFirst

/-- The paths of the next round, before they slide. -/
def nextPaths (paths : List Path) : List Path :=
  (List.zipWith between (none :: paths.map some) (paths.map some ++ [none])).filterMap id

/-- The farthest that the paths of a round have come, and the equal lines there. -/
structure Farthest where
  reached : Nat
  lines : List Line
  deriving Repr

/-- Takes account of a path that slid along equal lines. -/
def Farthest.update (best : Farthest) (path : Path) (equal : List Line) : Farthest :=
  if best.reached < path.reached then ⟨path.reached, equal⟩ else best

/-- How a round ends. -/
inductive RoundEnd where
  /-- A path has come to the end of both texts. -/
  | done (best : Farthest)
  | open (best : Farthest) (paths : List Path)

/-- Lets the paths of a round slide, one after the other. -/
def slideAll (best : Farthest) : List Path → RoundEnd
  | [] => .open best []
  | path :: others =>
    let (slid, equal) := path.slide
    let better := best.update slid equal
    if slid.isDone then .done better
    else
      match slideAll better others with
      | .done last => .done last
      | .open last paths => .open last (slid :: paths)

/-- Adds lines to a text of common lines. -/
def addLines (common : List Char) (lines : List Line) : List Char :=
  let added := Text.join '\n' lines
  if added.isEmpty then common
  else if common.isEmpty then added
  else common ++ '\n' :: added

/-- Goes through rounds, `rounds` of them at most. -/
def search (common : List Char) (paths : List Path) : Nat → List Char
  | 0 => []
  | rounds + 1 =>
    match slideAll ⟨0, []⟩ paths with
    | .done best =>
      if (Text.join '\n' best.lines).isEmpty then common ++ ['\n'] else addLines common best.lines
    | .open best slid => search (addLines common best.lines) (nextPaths slid) rounds

/-- The common lines of two texts, as a text. -/
def commonText (first second : List Line) : List Char :=
  search [] [⟨0, first, second⟩] (first.length + second.length)

end ElectionReadiness.Differences
