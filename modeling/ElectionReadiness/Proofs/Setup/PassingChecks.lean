import ElectionReadiness.Proofs.Setup.Boundary
import ElectionReadiness.Setup.Assessment
import Mathlib.Data.List.Basic

/-!
# What it takes for a check to pass

Each check of a section passes exactly under a condition on what the section holds, which is
stated here once for each (`Setup.checkBasics_eq_ok_iff`, `checkCandidates_eq_ok_iff`,
`checkTrustees_eq_ok_iff`, `Registrar.check_eq_ok_iff`).  Of the timing only a part is said,
for any calendar, even one whose instants are in no order: the zone is known and every
boundary is written (`Timing.written_of_check`).  The order of the windows is a matter of
its own.
-/

set_option autoImplicit false

namespace ElectionReadiness

/-! ## Sections -/

/-- A section passes if it is there and its content passes. -/
theorem Setup.checkSection_eq_ok_iff {Section : Type} {missing : Shortfall}
    {check : Section → Except Shortfall Unit} {content : Option Section} :
    Setup.checkSection missing check content = .ok () ↔
      ∃ present, content = some present ∧ check present = .ok () := by
  cases content <;> simp [Setup.checkSection]

theorem Setup.checkBasics_eq_ok_iff {setup : Setup} :
    setup.checkBasics = .ok () ↔
      (∃ parameters, setup.encryptionParameters = some parameters) ∧ setup.name ≠ "" := by
  unfold checkBasics
  cases setup.encryptionParameters <;> simp

/-! ## Names -/

/-- A name of which trimming leaves nothing. -/
def IsBlankName (name : String) : Prop := Text.trim name.toList = []

theorem isBlankText_iff_isBlankName {name : String} :
    Text.isBlankText name = true ↔ IsBlankName name := Text.isBlankText_iff

/-- No entry has a blank name. -/
def AllNamed {Entry : Type} (name : Entry → String) (entries : List Entry) : Prop :=
  ∀ entry ∈ entries, ¬IsBlankName (name entry)

theorem firstBlank?_eq_none_iff {Entry : Type} {name : Entry → String} {entries : List Entry} :
    firstBlank? (entries.map name) = none ↔ AllNamed name entries := by
  simp [firstBlank?, List.findIdx?_eq_none_iff, AllNamed, ← isBlankText_iff_isBlankName]

/-! ## The people -/

theorem checkCandidates_eq_ok_iff {requirements : Requirements} {candidates : List Candidate} :
    checkCandidates requirements candidates = .ok () ↔
      requirements.minCandidates ≤ candidates.length ∧
        (requirements.candidateNames = .strict → AllNamed Candidate.name candidates) := by
  rw [← firstBlank?_eq_none_iff, ← Nat.not_lt]
  unfold checkCandidates
  split
  · next few => simp [few]
  · next enough =>
    cases requirements.candidateNames <;>
      cases firstBlank? (candidates.map Candidate.name) <;> simp [enough]

theorem checkTrustees_eq_ok_iff {requirements : Requirements} {trustees : List Trustee} :
    checkTrustees requirements trustees = .ok () ↔
      requirements.minTrustees ≤ trustees.length ∧ AllNamed Trustee.name trustees := by
  rw [← firstBlank?_eq_none_iff, ← Nat.not_lt]
  unfold checkTrustees
  split
  · next few => simp [few]
  · next enough => cases firstBlank? (trustees.map Trustee.name) <;> simp [enough]

/-- A registrar passes with a name and a web address of a scheme for registration. -/
theorem Registrar.check_eq_ok_iff {registrar : Registrar} :
    registrar.check = .ok () ↔ ¬IsBlankName registrar.name ∧
      ∃ scheme, WebAddress.scheme? (registrar.registrationUrl.getD "") = some scheme ∧
        scheme ∈ registrationSchemes := by
  rw [← isBlankText_iff_isBlankName]
  unfold check
  split
  · next blank => simp [blank]
  · next named =>
    cases read : WebAddress.scheme? (registrar.registrationUrl.getD "") <;> simp [named, read]

/-- The empty text is no web address. -/
theorem WebAddress.scheme?_empty : WebAddress.scheme? "" = none := by decide

/-! ## The timing -/

/-- A window has ends if texts are written at both, and neither is empty. -/
theorem Window.at_of_ends? {window : Window} {ends : String × String}
    (found : window.ends? = some ends) (side : Side) :
    ∃ text, window.at side = some text ∧ text ≠ "" := by
  obtain ⟨opens, closes⟩ := window
  cases opens <;> cases closes <;> simp [ends?] at found
  cases side with
  | opening => exact ⟨_, rfl, found.1.1⟩
  | closing => exact ⟨_, rfl, found.1.2⟩

namespace Timing

variable {Instant : Type} [LT Instant] [DecidableLT Instant]

/-- Windows that pass have ends. -/
theorem ends?_of_checkWindows {timing : Timing} {calendar : Calendar Instant}
    {floor : Option Instant} {phases : List Phase}
    (passes : timing.checkWindows calendar floor phases = .ok ()) :
    ∀ phase ∈ phases, ∃ window ends, timing.window phase = some window ∧
      window.ends? = some ends := by
  induction phases generalizing floor with
  | nil => exact fun phase mem => absurd mem List.not_mem_nil
  | cons first later ih =>
      rw [checkWindows] at passes
      split at passes
      · cases passes
      · next closing checked =>
        intro phase mem
        rcases List.mem_cons.mp mem with rfl | mem
        · unfold checkWindow at checked
          split at checked
          · cases checked
          · next opens closes found =>
            obtain ⟨window, present, ends⟩ := Option.bind_eq_some_iff.mp found
            exact ⟨window, _, present, ends⟩
        · exact ih passes phase mem

/-- A timing that passes has a zone that is known, and every boundary is written. -/
theorem written_of_check {timing : Timing} {calendar : Calendar Instant}
    (passes : timing.check calendar = .ok ()) :
    calendar.isTimeZone timing.timeZone = true ∧
      ∀ phase, ∃ window, timing.window phase = some window ∧
        ∀ side, ∃ text, window.at side = some text ∧ text ≠ "" := by
  unfold check at passes
  split at passes
  · next known =>
    refine ⟨known, fun phase => ?_⟩
    obtain ⟨window, ends, present, found⟩ :=
      ends?_of_checkWindows passes phase (Phase.mem_all phase)
    exact ⟨window, present, Window.at_of_ends? found⟩
  · cases passes

end Timing

end ElectionReadiness
