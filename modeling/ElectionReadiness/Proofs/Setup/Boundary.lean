import ElectionReadiness.Setup.Document
import Mathlib.Data.List.Basic

/-!
# Boundaries of windows

The four windows of a timing have eight boundaries, which follow each other in the order of
the phases, every opening before its closing.  `Timing.written?` finds the text of a
boundary, and `Boundary.all` lists the boundaries in their order, so that a property of all
pairs in order can be told from the list (`Boundary.forall_lt_iff_pairwise`).
-/

set_option autoImplicit false

namespace ElectionReadiness

/-! ## The order of phases -/

namespace Phase

/-- The place of a phase among all. -/
def rank : Phase → Nat
  | parameterConfirmation => 0
  | voterRegistration => 1
  | voteCasting => 2
  | tallyDecryption => 3

instance : LT Phase := ⟨fun earlier later => earlier.rank < later.rank⟩

end Phase

/-! ## Boundaries -/

/-- One of the two ends of a window. -/
inductive Side where
  | opening
  | closing
  deriving DecidableEq, Repr

/-- One end of the window of a phase. -/
structure Boundary where
  phase : Phase
  side : Side
  deriving DecidableEq, Repr

namespace Boundary

/-- The place of a boundary among all eight. -/
def rank : Boundary → Nat
  | ⟨phase, .opening⟩ => 2 * phase.rank
  | ⟨phase, .closing⟩ => 2 * phase.rank + 1

instance : LT Boundary := ⟨fun earlier later => earlier.rank < later.rank⟩

instance : DecidableRel (fun earlier later : Boundary => earlier < later) :=
  fun earlier later => inferInstanceAs (Decidable (earlier.rank < later.rank))

/-- The two boundaries of a phase. -/
def ofPhase (phase : Phase) : List Boundary := [⟨phase, .opening⟩, ⟨phase, .closing⟩]

/-- All boundaries in order. -/
def all : List Boundary := Phase.all.flatMap ofPhase

theorem mem_all (boundary : Boundary) : boundary ∈ all := by
  obtain ⟨phase, side⟩ := boundary
  cases phase <;> cases side <;> decide

theorem all_pairwise_lt : all.Pairwise (· < ·) := by decide

/-- A window closes before the window of a later phase opens. -/
theorem closing_lt_opening {earlier later : Phase} (order : earlier < later) :
    (⟨earlier, .closing⟩ : Boundary) < ⟨later, .opening⟩ := by
  have ranks : earlier.rank < later.rank := order
  change 2 * earlier.rank + 1 < 2 * later.rank
  omega

/-- What holds of all boundaries in order can be read off their list. -/
theorem forall_lt_iff_pairwise {related : Boundary → Boundary → Prop} :
    (∀ earlier later, earlier < later → related earlier later) ↔ all.Pairwise related := by
  constructor
  · intro holds
    exact all_pairwise_lt.imp fun order => holds _ _ order
  · intro holds earlier later order
    obtain ⟨i, i_lt, rfl⟩ := List.getElem_of_mem (mem_all earlier)
    obtain ⟨j, j_lt, rfl⟩ := List.getElem_of_mem (mem_all later)
    -- The places of the two in the list are in the order of the two themselves.
    rcases Nat.lt_trichotomy i j with before | same | behind
    · exact List.pairwise_iff_getElem.mp holds i j i_lt j_lt before
    · subst same
      exact absurd order (Nat.lt_irrefl _)
    · have reversed := List.pairwise_iff_getElem.mp all_pairwise_lt j i j_lt i_lt behind
      exact absurd (Nat.lt_trans order reversed) (Nat.lt_irrefl _)

end Boundary

/-! ## The texts of boundaries -/

/-- The text at one end of a window. -/
def Window.at (window : Window) : Side → Option String
  | .opening => window.opens
  | .closing => window.closes

/-- The text of a boundary, none if it or its whole window is missing. -/
def Timing.written? (timing : Timing) (boundary : Boundary) : Option String :=
  (timing.window boundary.phase).bind (·.at boundary.side)

end ElectionReadiness
