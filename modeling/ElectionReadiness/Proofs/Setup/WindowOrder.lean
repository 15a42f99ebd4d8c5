import ElectionReadiness.Proofs.Setup.Boundary
import ElectionReadiness.Setup.Assessment
import Mathlib.Data.List.Forall2
import Mathlib.Data.Nat.Basic
import Mathlib.Order.Lattice

/-!
# The windows follow each other

The check of the timing looks at each window once and carries the last closing along as a
floor.  What it accepts is a statement about all eight boundaries at once: every one is
written and read by the calendar, and of any two the earlier is no later in time
(`Setup.timing_passes_iff_sorted`).

One window passes above a floor exactly if its two boundaries are read and form a chain with
the floor (`Timing.checkWindow_eq_ok_iff`).  The invariant of the loop is therefore that the
instants read so far, from the floor on, are a chain (`Timing.checkWindows_eq_ok_iff`), and a
chain of a transitive order orders all its pairs.
-/

set_option autoImplicit false

namespace ElectionReadiness

/-! ## Boundaries that are read -/

namespace Timing

/-- A boundary is written, and the calendar reads it as an instant. -/
def Reads {Instant : Type} (timing : Timing) (calendar : Calendar Instant) (boundary : Boundary)
    (instant : Instant) : Prop :=
  ∃ text, timing.written? boundary = some text ∧ text ≠ "" ∧
    calendar.instant? text = some instant

theorem Reads.unique {Instant : Type} {timing : Timing} {calendar : Calendar Instant}
    {boundary : Boundary} {one other : Instant} (first : timing.Reads calendar boundary one)
    (second : timing.Reads calendar boundary other) : one = other := by
  obtain ⟨text, written, _, read⟩ := first
  obtain ⟨text', written', _, read'⟩ := second
  rw [written, Option.some.injEq] at written'
  subst written'
  rw [read, Option.some.injEq] at read'
  exact read'

/-- Instants that are read one by one are the values of any reading of the boundaries. -/
theorem eq_map_of_reads {Instant : Type} {timing : Timing} {calendar : Calendar Instant}
    {boundaries : List Boundary} {instants : List Instant} {instant : Boundary → Instant}
    (read : List.Forall₂ (timing.Reads calendar) boundaries instants)
    (reads : ∀ boundary, timing.Reads calendar boundary (instant boundary)) :
    instants = boundaries.map instant := by
  induction read with
  | nil => rfl
  | cons here _ ih => rw [List.map_cons, here.unique (reads _), ih]

theorem exists_reads_of_mem {Instant : Type} {timing : Timing} {calendar : Calendar Instant}
    {boundaries : List Boundary} {instants : List Instant}
    (read : List.Forall₂ (timing.Reads calendar) boundaries instants) :
    ∀ boundary ∈ boundaries, ∃ instant, timing.Reads calendar boundary instant := by
  induction read with
  | nil => exact fun _ mem => absurd mem List.not_mem_nil
  | cons here _ ih =>
      intro boundary mem
      rcases List.mem_cons.mp mem with rfl | mem
      · exact ⟨_, here⟩
      · exact ih boundary mem

/-- The two boundaries of a phase are read exactly if its window has ends and the calendar
reads both. -/
theorem reads_both_iff {Instant : Type} {timing : Timing} {calendar : Calendar Instant}
    {phase : Phase} {opening closing : Instant} :
    (timing.Reads calendar ⟨phase, .opening⟩ opening ∧
        timing.Reads calendar ⟨phase, .closing⟩ closing) ↔
      ∃ opens closes, (timing.window phase).bind Window.ends? = some (opens, closes) ∧
        calendar.instant? opens = some opening ∧ calendar.instant? closes = some closing := by
  simp only [Reads, written?, Window.at]
  cases timing.window phase with
  | none => simp
  | some window =>
      obtain ⟨opens, closes⟩ := window
      constructor
      · rintro ⟨⟨opening, rfl, filled, read⟩, closing, rfl, filled', read'⟩
        exact ⟨opening, closing, by simp [Window.ends?, filled, filled'], read, read'⟩
      · rintro ⟨opening, closing, ends, read, read'⟩
        cases opens <;> cases closes <;> simp [Window.ends?] at ends
        obtain ⟨⟨filled, filled'⟩, rfl, rfl⟩ := ends
        exact ⟨⟨_, rfl, filled, read⟩, _, rfl, filled', read'⟩

/-! ## One window, and windows that follow each other -/

section Check

variable {Instant : Type} [LinearOrder Instant]

/-- A chain goes on from a floor that is not above its start. -/
theorem isChain_floor_append {floor : Option Instant} {opening : Instant}
    {later : List Instant} :
    (floor.toList ++ opening :: later).IsChain (· ≤ ·) ↔
      (∀ previous ∈ floor, previous ≤ opening) ∧ (opening :: later).IsChain (· ≤ ·) := by
  cases floor with
  | none => simp
  | some previous => simp [List.isChain_cons_cons]

/-- A window passes above a floor if its boundaries are read and come in order after it. -/
theorem checkWindow_eq_ok_iff {timing : Timing} {calendar : Calendar Instant}
    {floor : Option Instant} {phase : Phase} {closing : Instant} :
    timing.checkWindow calendar floor phase = .ok closing ↔
      ∃ opening, (timing.Reads calendar ⟨phase, .opening⟩ opening ∧
        timing.Reads calendar ⟨phase, .closing⟩ closing) ∧
        (∀ previous ∈ floor, previous ≤ opening) ∧ opening ≤ closing := by
  constructor
  · intro passes
    unfold checkWindow at passes
    split at passes
    · cases passes
    · next opens closes ends =>
      split at passes
      · cases passes
      · next opening read =>
        split at passes
        · cases passes
        · next clear =>
          split at passes
          · cases passes
          · next closing' read' =>
            split at passes
            · cases passes
            · next order =>
              cases passes
              refine ⟨opening, reads_both_iff.mpr ⟨opens, closes, ends, read, read'⟩, ?_,
                not_lt.mp order⟩
              intro previous mem
              rw [Option.mem_def] at mem
              subst mem
              simpa using clear
  · rintro ⟨opening, both, clear, order⟩
    obtain ⟨opens, closes, ends, read, read'⟩ := reads_both_iff.mp both
    have above : ¬ floor.any (fun previous => decide (opening < previous)) = true := by
      cases floor with
      | none => simp
      | some previous => simpa using clear previous rfl
    simp only [checkWindow, ends, read, read', if_neg above, if_neg (not_lt.mpr order)]

/-- Windows pass above a floor exactly if all their boundaries are read and the instants,
from the floor on, are a chain. -/
theorem checkWindows_eq_ok_iff {timing : Timing} {calendar : Calendar Instant}
    {phases : List Phase} {floor : Option Instant} :
    timing.checkWindows calendar floor phases = .ok () ↔
      ∃ instants, List.Forall₂ (timing.Reads calendar) (phases.flatMap Boundary.ofPhase) instants ∧
        (floor.toList ++ instants).IsChain (· ≤ ·) := by
  induction phases generalizing floor with
  | nil =>
      constructor
      · intro _
        exact ⟨[], .nil, by cases floor <;> simp⟩
      · intro _
        rfl
  | cons phase later ih =>
      constructor
      · intro passes
        unfold checkWindows at passes
        split at passes
        · cases passes
        · next closing checked =>
          obtain ⟨opening, both, clear, order⟩ := checkWindow_eq_ok_iff.mp checked
          obtain ⟨instants, read, chain⟩ := ih.mp passes
          exact ⟨opening :: closing :: instants, .cons both.1 (.cons both.2 read),
            isChain_floor_append.mpr ⟨clear, List.isChain_cons_cons.mpr ⟨order, chain⟩⟩⟩
      · rintro ⟨_, read, chain⟩
        obtain _ | ⟨opened, _ | ⟨closed, read⟩⟩ := read
        obtain ⟨clear, inner⟩ := isChain_floor_append.mp chain
        obtain ⟨order, rest⟩ := List.isChain_cons_cons.mp inner
        have checked := checkWindow_eq_ok_iff.mpr ⟨_, ⟨opened, closed⟩, clear, order⟩
        simp only [checkWindows, checked]
        exact ih.mpr ⟨_, read, rest⟩

/-- A timing passes exactly if its zone is known, all its boundaries are read, and of any two
the earlier is no later in time. -/
theorem check_eq_ok_iff {timing : Timing} {calendar : Calendar Instant} :
    timing.check calendar = .ok () ↔
      calendar.isTimeZone timing.timeZone = true ∧
        ∃ instant : Boundary → Instant,
          (∀ boundary, timing.Reads calendar boundary (instant boundary)) ∧
            ∀ earlier later, earlier < later → instant earlier ≤ instant later := by
  have sorted (instant : Boundary → Instant) :
      (Boundary.all.map instant).IsChain (· ≤ ·) ↔
        ∀ earlier later, earlier < later → instant earlier ≤ instant later := by
    rw [List.isChain_iff_pairwise, List.pairwise_map]
    exact Boundary.forall_lt_iff_pairwise.symm
  unfold check
  by_cases known : calendar.isTimeZone timing.timeZone = true
  · rw [if_pos known, checkWindows_eq_ok_iff]
    constructor
    · rintro ⟨instants, read, chain⟩
      choose instant reads using fun boundary =>
        exists_reads_of_mem read boundary (Boundary.mem_all boundary)
      have listed : instants = Boundary.all.map instant := eq_map_of_reads read reads
      exact ⟨known, instant, reads, (sorted instant).mp (listed ▸ chain)⟩
    · rintro ⟨_, instant, reads, order⟩
      refine ⟨Boundary.all.map instant, ?_, (sorted instant).mpr order⟩
      exact List.forall₂_map_right_iff.mpr (List.forall₂_same.mpr fun boundary _ => reads boundary)
  · simp [known]

end Check

end Timing

/-! ## The check of the timing -/

namespace Setup

variable {Instant : Type} [LinearOrder Instant]

/-- **The timing passes exactly if all eight boundaries are in order.**  There is a timing,
its zone is known, every boundary of its windows is written and read, and the instants do
not decrease over any two boundaries, neighbours or not.  So a window that opens before
that of any earlier phase closes keeps the timing incomplete, while windows may touch and
be empty. -/
theorem timing_passes_iff_sorted (setup : Setup) (requirements : Requirements)
    (calendar : Calendar Instant) :
    (setup.check requirements calendar .timing = .ok () ↔
      ∃ timing, setup.timing = some timing ∧
        calendar.isTimeZone timing.timeZone = true ∧
          ∃ instant : Boundary → Instant,
            (∀ boundary, timing.Reads calendar boundary (instant boundary)) ∧
              ∀ earlier later, earlier < later → instant earlier ≤ instant later) ∧
      ∀ timing, setup.timing = some timing →
        ∀ earlier later : Phase, earlier < later → ∀ closing opening : Instant,
          timing.Reads calendar ⟨earlier, .closing⟩ closing →
            timing.Reads calendar ⟨later, .opening⟩ opening → opening < closing →
              ∃ shortfall, setup.check requirements calendar .timing = .error shortfall := by
  have passes : setup.check requirements calendar .timing = .ok () ↔
      ∃ timing, setup.timing = some timing ∧ timing.check calendar = .ok () := by
    simp only [check, checkSection]
    cases setup.timing <;> simp
  refine ⟨by simp only [passes, Timing.check_eq_ok_iff], ?_⟩
  intro timing present earlier later order closing opening closes opens overlap
  cases outcome : setup.check requirements calendar .timing with
  | error shortfall => exact ⟨shortfall, rfl⟩
  | ok =>
      obtain ⟨timing', present', checked⟩ := passes.mp outcome
      rw [present, Option.some.injEq] at present'
      subst present'
      obtain ⟨_, instant, reads, sorted⟩ := Timing.check_eq_ok_iff.mp checked
      have following := sorted _ _ (Boundary.closing_lt_opening order)
      rw [(reads _).unique closes, (reads _).unique opens] at following
      exact absurd overlap (not_lt.mpr following)

/-- Windows that touch and are empty pass; a tally that opens before the registration two
phases earlier closes does not. -/
theorem touching_passes_overlapping_fails :
    let calendar : Calendar Nat := ⟨fun _ => true, fun text =>
      if text = "early" then some 1 else if text = "late" then some 2 else none⟩
    let window (opens closes : String) : Option Window := some ⟨some opens, some closes⟩
    let touching : Timing :=
      { parameterConfirmation := window "early" "early"
        voterRegistration := window "early" "late"
        voteCasting := window "late" "late"
        tallyDecryption := window "late" "late" }
    let overlapping := touching.setWindow .tallyDecryption (window "early" "late")
    ({ timing := some touching } : Setup).check .usual calendar .timing = .ok () ∧
      ∃ shortfall,
        ({ timing := some overlapping } : Setup).check .usual calendar .timing =
          .error shortfall := by
  intro calendar window touching overlapping
  constructor
  · refine (timing_passes_iff_sorted { timing := some touching } .usual calendar).1.mpr
      ⟨touching, rfl, rfl, fun boundary => if boundary.rank ≤ 2 then 1 else 2, ?_, ?_⟩
    · rintro ⟨phase, side⟩
      cases phase <;> cases side <;> exact ⟨_, rfl, by decide, rfl⟩
    · intro earlier later order
      have ranks : earlier.rank < later.rank := order
      dsimp only
      split <;> split <;> omega
  · exact (timing_passes_iff_sorted { timing := some overlapping } .usual calendar).2
      overlapping rfl .voterRegistration .tallyDecryption (by decide : (1 : Nat) < 3) 2 1
      ⟨"late", rfl, by decide, rfl⟩ ⟨"early", rfl, by decide, rfl⟩ (by decide)

end Setup

end ElectionReadiness
