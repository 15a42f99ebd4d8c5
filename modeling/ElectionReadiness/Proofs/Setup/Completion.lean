import ElectionReadiness.Proofs.Setup.FirstFailing
import ElectionReadiness.Proofs.Setup.PassingChecks
import Mathlib.Logic.Relation

/-!
# Completing a setup never loses progress

A setup is completed when something in it is filled in that was missing or could not stand:
an empty name, a section that is not there, a zone that the calendar rejects, a window or a
boundary without a time, a blank name, an address for registration.  Entries with names may
join the lists of candidates and trustees, and what no check looks at may change at will
(`Setup.Completes`).  What is filled in need not be right: a missing section may become one
that fails its check.

A stage that passes has nothing left to fill in that its check would mind.  So every stage
that passes before a completion passes after it (`Setup.check_of_completes`), and any number
of completions keeps the active stage from going back and every complete stage complete
(`Setup.completing_keeps_progress`).
-/

set_option autoImplicit false

namespace ElectionReadiness

/-! ## Completing the parts of a setup -/

/-- A section is started with any content, or its content is completed. -/
inductive SectionCompletes {Section : Type} (completes : Section → Section → Prop) :
    Option Section → Option Section → Prop
  | started (content : Section) : SectionCompletes completes none (some content)
  | continued {content later : Section} (completed : completes content later) :
      SectionCompletes completes (some content) (some later)

/-- An entry with a blank name gets any name; one with a name keeps it, and all else of an
entry may change. -/
inductive EntryCompletes {Entry : Type} (name : Entry → String) : Entry → Entry → Prop
  | named {entry later : Entry} (blank : IsBlankName (name entry)) : EntryCompletes name entry later
  | changed {entry later : Entry} (kept : name later = name entry) : EntryCompletes name entry later

/-- An entry of a list is completed in its place, or entries with names join at the end. -/
inductive EntriesComplete {Entry : Type} (name : Entry → String) :
    List Entry → List Entry → Prop
  | completed {before after : List Entry} {entry later : Entry}
      (completes : EntryCompletes name entry later) :
      EntriesComplete name (before ++ entry :: after) (before ++ later :: after)
  | joined {entries others : List Entry} (named : AllNamed name others) :
      EntriesComplete name entries (entries ++ others)

/-- A blank name is replaced, an address is given where there is none or an empty one, or
anything but the name and the address changes. -/
inductive Registrar.Completes : Registrar → Registrar → Prop
  | named {registrar : Registrar} (blank : IsBlankName registrar.name) (name : String) :
      Completes registrar { registrar with name := name }
  | addressed {registrar : Registrar}
      (missing : registrar.registrationUrl = none ∨ registrar.registrationUrl = some "")
      (url : String) : Completes registrar { registrar with registrationUrl := some url }
  | changed {registrar later : Registrar} (keptName : later.name = registrar.name)
      (keptAddress : later.registrationUrl = registrar.registrationUrl) :
      Completes registrar later

/-- The window with a text at one end. -/
def Window.setAt (window : Window) (side : Side) (text : String) : Window :=
  match side with
  | .opening => { window with opens := some text }
  | .closing => { window with closes := some text }

/-- A zone that the calendar rejects is replaced, a missing window is given, or a window gets
a text at an end that has none or an empty one. -/
inductive Timing.Completes {Instant : Type} (calendar : Calendar Instant) :
    Timing → Timing → Prop
  | zone {timing : Timing} (rejected : calendar.isTimeZone timing.timeZone = false)
      (zone : String) : Completes calendar timing { timing with timeZone := zone }
  | window {timing : Timing} {phase : Phase} (missing : timing.window phase = none)
      (window : Window) : Completes calendar timing (timing.setWindow phase (some window))
  | boundary {timing : Timing} {phase : Phase} {window : Window} {side : Side}
      (present : timing.window phase = some window)
      (missing : window.at side = none ∨ window.at side = some "") (text : String) :
      Completes calendar timing (timing.setWindow phase (some (window.setAt side text)))

/-- One part of a setup is completed. -/
inductive Setup.Completes {Instant : Type} (calendar : Calendar Instant) : Setup → Setup → Prop
  | name {setup : Setup} (missing : setup.name = "") (name : String) :
      Completes calendar setup { setup with name := name }
  | parameters {setup : Setup} {later : Option EncryptionParameters}
      (completes : SectionCompletes (fun _ _ => True) setup.encryptionParameters later) :
      Completes calendar setup { setup with encryptionParameters := later }
  | timing {setup : Setup} {later : Option Timing}
      (completes : SectionCompletes (Timing.Completes calendar) setup.timing later) :
      Completes calendar setup { setup with timing := later }
  | candidates {setup : Setup} {later : Option (List Candidate)}
      (completes : SectionCompletes (EntriesComplete Candidate.name) setup.candidates later) :
      Completes calendar setup { setup with candidates := later }
  | trustees {setup : Setup} {later : Option (List Trustee)}
      (completes : SectionCompletes (EntriesComplete Trustee.name) setup.trustees later) :
      Completes calendar setup { setup with trustees := later }
  | registrar {setup : Setup} {later : Option Registrar}
      (completes : SectionCompletes Registrar.Completes setup.registrar later) :
      Completes calendar setup { setup with registrar := later }

/-! ## Checks that passed still pass -/

theorem SectionCompletes.exists_content {Section : Type} {completes : Section → Section → Prop}
    {content later : Option Section} (completed : SectionCompletes completes content later) :
    ∃ present, later = some present := by
  cases completed with
  | started present => exact ⟨present, rfl⟩
  | @continued _ present _ => exact ⟨present, rfl⟩

/-- The check of a section that passes still passes if completing its content keeps it so. -/
theorem SectionCompletes.checkSection {Section : Type} {completes : Section → Section → Prop}
    {check : Section → Except Shortfall Unit} {missing : Shortfall}
    {content later : Option Section} (completed : SectionCompletes completes content later)
    (keeps : ∀ one other, completes one other → check one = .ok () → check other = .ok ())
    (passes : Setup.checkSection missing check content = .ok ()) :
    Setup.checkSection missing check later = .ok () := by
  cases completed with
  | started => cases passes
  | continued completed => exact keeps _ _ completed passes

/-- A timing that passes has nothing to complete. -/
theorem Timing.not_completes_of_check {Instant : Type} [LT Instant] [DecidableLT Instant]
    {timing later : Timing} {calendar : Calendar Instant}
    (passes : timing.check calendar = .ok ()) : ¬timing.Completes calendar later := by
  obtain ⟨known, written⟩ := Timing.written_of_check passes
  intro completes
  cases completes with
  | zone rejected =>
      rw [known] at rejected
      cases rejected
  | @window phase missing =>
      obtain ⟨window, present, _⟩ := written phase
      rw [missing] at present
      cases present
  | @boundary phase window side present missing =>
      obtain ⟨window', present', full⟩ := written phase
      rw [present, Option.some.injEq] at present'
      subst present'
      obtain ⟨text, here, filled⟩ := full side
      rcases missing with missing | missing
      · rw [missing] at here
        cases here
      · rw [missing, Option.some.injEq] at here
        exact filled here.symm

/-- Completing a list makes it no shorter and leaves no name blank. -/
theorem EntriesComplete.keeps {Entry : Type} {name : Entry → String} {entries later : List Entry}
    (completes : EntriesComplete name entries later) :
    entries.length ≤ later.length ∧ (AllNamed name entries → AllNamed name later) := by
  cases completes with
  | @completed before after entry other completes =>
      refine ⟨by simp, fun named found mem => ?_⟩
      have here : ¬IsBlankName (name entry) := named entry (by simp)
      rcases List.mem_append.mp mem with mem | mem
      · exact named found (List.mem_append_left _ mem)
      · rcases List.mem_cons.mp mem with rfl | mem
        · cases completes with
          | named blank => exact absurd blank here
          | changed kept => exact kept ▸ here
        · exact named found (List.mem_append_right _ (List.mem_cons_of_mem _ mem))
  | joined others =>
      refine ⟨by simp, fun named found mem => ?_⟩
      rcases List.mem_append.mp mem with mem | mem
      · exact named found mem
      · exact others found mem

theorem Registrar.check_of_completes {registrar later : Registrar}
    (completes : registrar.Completes later) (passes : registrar.check = .ok ()) :
    later.check = .ok () := by
  obtain ⟨named, scheme, reads, offered⟩ := check_eq_ok_iff.mp passes
  cases completes with
  | named blank => exact absurd blank named
  | addressed missing =>
      have empty : registrar.registrationUrl.getD "" = "" := by
        rcases missing with missing | missing <;> rw [missing] <;> rfl
      rw [empty, WebAddress.scheme?_empty] at reads
      cases reads
  | changed keptName keptAddress =>
      rw [check_eq_ok_iff, keptName, keptAddress]
      exact ⟨named, scheme, reads, offered⟩

namespace Setup

variable {Instant : Type} [LT Instant] [DecidableLT Instant]

/-- A stage that passes still passes after a completion. -/
theorem check_of_completes {setup later : Setup} {requirements : Requirements}
    {calendar : Calendar Instant} {stage : Stage} (completes : setup.Completes calendar later)
    (passes : setup.check requirements calendar stage = .ok ()) :
    later.check requirements calendar stage = .ok () := by
  -- Only the stage of the part that is completed looks at it.
  cases completes with
  | name missing =>
      cases stage with
      | basics => exact absurd missing (checkBasics_eq_ok_iff.mp passes).2
      | _ => exact passes
  | parameters completes =>
      cases stage with
      | basics =>
          obtain ⟨_, named⟩ := checkBasics_eq_ok_iff.mp passes
          exact checkBasics_eq_ok_iff.mpr ⟨completes.exists_content, named⟩
      | _ => exact passes
  | timing completes =>
      cases stage with
      | timing =>
          refine completes.checkSection (fun one other changes here => ?_) passes
          exact absurd changes (Timing.not_completes_of_check here)
      | _ => exact passes
  | candidates completes =>
      cases stage with
      | candidates =>
          refine completes.checkSection (fun one other changes here => ?_) passes
          obtain ⟨enough, named⟩ := checkCandidates_eq_ok_iff.mp here
          exact checkCandidates_eq_ok_iff.mpr ⟨Nat.le_trans enough changes.keeps.1,
            fun strict => changes.keeps.2 (named strict)⟩
      | _ => exact passes
  | trustees completes =>
      cases stage with
      | trustees =>
          refine completes.checkSection (fun one other changes here => ?_) passes
          obtain ⟨enough, named⟩ := checkTrustees_eq_ok_iff.mp here
          exact checkTrustees_eq_ok_iff.mpr
            ⟨Nat.le_trans enough changes.keeps.1, changes.keeps.2 named⟩
      | _ => exact passes
  | registrar completes =>
      cases stage with
      | registrar =>
          exact completes.checkSection (fun one other => Registrar.check_of_completes) passes
      | _ => exact passes

/-- A stage that passes still passes after any number of completions. -/
theorem check_of_completions {setup later : Setup} {requirements : Requirements}
    {calendar : Calendar Instant} {stage : Stage}
    (completions : Relation.ReflTransGen (Completes calendar) setup later)
    (passes : setup.check requirements calendar stage = .ok ()) :
    later.check requirements calendar stage = .ok () := by
  induction completions with
  | refl => exact passes
  | tail _ completes ih => exact check_of_completes completes ih

/-- **Completing a setup never loses progress.**  After any number of completions, whatever
they fill in, the active stage is no earlier, every complete stage is still complete, and
every stage whose own check passed still passes it. -/
theorem completing_keeps_progress {setup later : Setup} (requirements : Requirements)
    {calendar : Calendar Instant}
    (completions : Relation.ReflTransGen (Completes calendar) setup later) :
    (setup.assess requirements calendar).progress.active ≤
        (later.assess requirements calendar).progress.active ∧
      (∀ stage ∈ (setup.assess requirements calendar).progress.completed,
        stage ∈ (later.assess requirements calendar).progress.completed) ∧
      ∀ stage, setup.check requirements calendar stage = .ok () →
        later.check requirements calendar stage = .ok () := by
  have keeps : ∀ stage, setup.check requirements calendar stage = .ok () →
      later.check requirements calendar stage = .ok () :=
    fun stage => check_of_completions completions
  have further := active_le_of_checks keeps
  exact ⟨further, mem_completed_of_active_le further, keeps⟩

/-- The basics stay complete while the timing goes from missing to wrong: it is started in a
zone that is none, and a window is given that closes before it opens.  A blank candidate gets
a name, and another joins. -/
theorem basics_stay_complete :
    let calendar : Calendar Nat := ⟨fun zone => zone == "Europe/London", String.toNat?⟩
    let begun : Setup :=
      { name := "Town Vote", encryptionParameters := some ⟨"Ag", "Aw", "AQ"⟩
        candidates := some [{ id := "c1", name := "\u2003 " }] }
    let fuller : Setup :=
      { begun with
        timing := some { timeZone := "Nowhere", voteCasting := some ⟨some "9", some "8"⟩ }
        candidates := some [{ id := "c1", name := "Anna" }, { id := "c2", name := "Bob" }] }
    Relation.ReflTransGen (Completes calendar) begun fuller ∧
      Stage.timing ≤ (fuller.assess .usual calendar).progress.active ∧
      Stage.basics ∈ (fuller.assess .usual calendar).progress.completed := by
  intro calendar begun fuller
  have blank : IsBlankName "\u2003 " := by unfold IsBlankName; decide
  have named : AllNamed Candidate.name [{ id := "c2", name := "Bob" }] := by
    intro entry mem
    rw [List.mem_singleton.mp mem]
    unfold IsBlankName
    decide
  have zoned : Completes calendar begun
      { begun with timing := some { timeZone := "Nowhere" } } := .timing (.started _)
  have opened : Timing.Completes calendar { timeZone := "Nowhere" }
      { timeZone := "Nowhere", voteCasting := some ⟨some "9", none⟩ } :=
    @Timing.Completes.window _ _ _ .voteCasting rfl _
  have closed : Timing.Completes calendar
      { timeZone := "Nowhere", voteCasting := some ⟨some "9", none⟩ }
      { timeZone := "Nowhere", voteCasting := some ⟨some "9", some "8"⟩ } :=
    @Timing.Completes.boundary _ _ _ .voteCasting ⟨some "9", none⟩ .closing rfl (.inl rfl) "8"
  have renamed : EntriesComplete Candidate.name [{ id := "c1", name := "\u2003 " }]
      [{ id := "c1", name := "Anna" }] := @EntriesComplete.completed _ _ [] [] _ _ (.named blank)
  have completions : Relation.ReflTransGen (Completes calendar) begun fuller := by
    refine .head zoned (.head (.timing (.continued opened)) ?_)
    refine .head (.timing (.continued closed)) (.head (.candidates (.continued renamed)) ?_)
    exact .single (.candidates (.continued (.joined named)))
  have kept := completing_keeps_progress .usual completions
  exact ⟨completions, kept.1, kept.2.1 .basics (by decide)⟩

end Setup

end ElectionReadiness
