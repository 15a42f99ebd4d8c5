/-!
# The stages of a setup

A setup is completed stage by stage.  Five stages have a section of their own to
check; the last, the genesis, is reached when all of them are complete and the
election can be published.  Stages are ordered by their rank.
-/

set_option autoImplicit false

namespace ElectionReadiness

/-- A stage of the setup of an election. -/
inductive Stage where
  | basics
  | timing
  | candidates
  | trustees
  | registrar
  /-- Everything is complete. -/
  | genesis
  deriving DecidableEq, Repr

namespace Stage

/-- The stages in order. -/
def all : List Stage := [basics, timing, candidates, trustees, registrar, genesis]

/-- The stages with a section to check, in order. -/
def checked : List Stage := [basics, timing, candidates, trustees, registrar]

/-- The place of a stage among all. -/
def rank : Stage → Nat
  | basics => 0
  | timing => 1
  | candidates => 2
  | trustees => 3
  | registrar => 4
  | genesis => 5

instance : LT Stage := ⟨fun earlier later => earlier.rank < later.rank⟩

instance : LE Stage := ⟨fun earlier later => earlier.rank ≤ later.rank⟩

instance : DecidableRel (fun earlier later : Stage => earlier < later) :=
  fun earlier later => inferInstanceAs (Decidable (earlier.rank < later.rank))

instance : DecidableRel (fun earlier later : Stage => earlier ≤ later) :=
  fun earlier later => inferInstanceAs (Decidable (earlier.rank ≤ later.rank))

/-- The name of the stage in files and on the command line. -/
def key : Stage → String
  | basics => "basic"
  | timing => "timing"
  | candidates => "candidates"
  | trustees => "trustees"
  | registrar => "registrar"
  | genesis => "genesis"

/-- The name of the stage as people read it. -/
def label : Stage → String
  | basics => "Info"
  | timing => "Timing"
  | candidates => "Candidates"
  | trustees => "Trustees"
  | registrar => "Registrar"
  | genesis => "Genesis"

/-- The stage after this one. -/
def next : Stage → Option Stage
  | basics => some timing
  | timing => some candidates
  | candidates => some trustees
  | trustees => some registrar
  | registrar => some genesis
  | genesis => none

/-- The stage with a key. -/
def ofKey? (key : String) : Option Stage := all.find? fun stage => stage.key == key

/-! ## The order of stages -/

theorem rank_injective {one other : Stage} (h : one.rank = other.rank) : one = other := by
  cases one <;> cases other <;> first | rfl | exact absurd h (by decide)

theorem mem_all (stage : Stage) : stage ∈ all := by cases stage <;> decide

/-- The stages with a section are those before the genesis. -/
theorem mem_checked_iff {stage : Stage} : stage ∈ checked ↔ stage < genesis := by
  cases stage <;> decide

/-- A stage is found by its key. -/
theorem ofKey?_key (stage : Stage) : ofKey? stage.key = some stage := by
  cases stage <;> decide

end Stage

end ElectionReadiness
