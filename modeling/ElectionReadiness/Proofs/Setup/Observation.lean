import ElectionReadiness.Proofs.Setup.FirstViolation

/-!
# What an assessment observes

A check looks at less than its section holds: whether a section is there, which of the names are
blank, how many entries a list has, and the texts of the zone, the boundaries and the address for
registration.  Setups that have these in common at a stage resemble each other there
(`Setup.Resembles`).  Nothing is said of ids, keys, exponents and signatures, of the data on who
may vote, of the numbers in the encryption parameters, and of the names of candidates where no
names are asked for.

Setups that resemble each other at a stage have the same outcome there, with the same texts,
counts and indices in what falls short (`Setup.check_eq_of_resembles`).  For the windows the
induction is on the phases, and the floor is the same on both sides.  The sections behind the
active stage have no say, so it is enough to resemble a setup up to the stage where it stops
(`Setup.resembling_setups_are_assessed_alike`).
-/

set_option autoImplicit false

namespace ElectionReadiness

/-! ## What the checks look at -/

/-- Lists of the same length with blank names at the same places. -/
def SameBlanks {Entry : Type} (name : Entry → String) : List Entry → List Entry → Prop :=
  List.Forall₂ fun entry other => IsBlankName (name entry) ↔ IsBlankName (name other)

/-- The text of a boundary, empty if it is missing. -/
def Timing.textAt (timing : Timing) (boundary : Boundary) : String :=
  (timing.written? boundary).getD ""

/-- Timings of one zone with the same texts at all boundaries. -/
structure Timing.Resembles (timing other : Timing) : Prop where
  zone : timing.timeZone = other.timeZone
  texts : ∀ boundary, timing.textAt boundary = other.textAt boundary

/-- As many candidates on both sides, with the same names blank if names are asked for. -/
structure CandidatesResemble (requirements : Requirements) (candidates others : List Candidate) :
    Prop where
  count : candidates.length = others.length
  blanks : requirements.candidateNames = .strict → SameBlanks Candidate.name candidates others

/-- Registrars with one address, of which neither or both have blank names. -/
structure Registrar.Resembles (registrar other : Registrar) : Prop where
  blank : IsBlankName registrar.name ↔ IsBlankName other.name
  address : registrar.addressText = other.addressText

/-- Two setups have in common what the check of a stage looks at. -/
def Setup.Resembles (requirements : Requirements) (setup other : Setup) : Stage → Prop
  | .basics =>
    setup.encryptionParameters.isSome = other.encryptionParameters.isSome ∧
      (setup.name = "" ↔ other.name = "")
  | .timing => Option.Rel Timing.Resembles setup.timing other.timing
  | .candidates => Option.Rel (CandidatesResemble requirements) setup.candidates other.candidates
  | .trustees => Option.Rel (SameBlanks Trustee.name) setup.trustees other.trustees
  | .registrar => Option.Rel Registrar.Resembles setup.registrar other.registrar
  | .genesis => True

/-! ## The timing -/

namespace Timing

/-- A text that is not empty is the text of a boundary exactly if it is written there. -/
theorem textAt_eq_iff {timing : Timing} {boundary : Boundary} {text : String}
    (filled : text ≠ "") : timing.textAt boundary = text ↔ timing.written? boundary = some text := by
  unfold textAt
  cases timing.written? boundary with
  | none => simpa using filled.symm
  | some other => simp

namespace Resembles

variable {timing other : Timing}

theorem ends?_eq (alike : timing.Resembles other) (phase : Phase) :
    (timing.window phase).bind Window.ends? = (other.window phase).bind Window.ends? := by
  have written (boundary : Boundary) (text : String) :
      (timing.written? boundary = some text ∧ text ≠ "") ↔
        (other.written? boundary = some text ∧ text ≠ "") := by
    refine and_congr_left fun filled => ?_
    rw [← textAt_eq_iff filled, ← textAt_eq_iff filled, alike.texts boundary]
  apply Option.ext
  rintro ⟨opens, closes⟩
  rw [ends?_eq_some_iff, ends?_eq_some_iff]
  exact and_congr (written _ opens) (written _ closes)

variable {Instant : Type} [LT Instant] [DecidableLT Instant]

theorem checkWindow_eq (alike : timing.Resembles other) (calendar : Calendar Instant)
    (floor : Option Instant) (phase : Phase) :
    timing.checkWindow calendar floor phase = other.checkWindow calendar floor phase := by
  unfold checkWindow
  rw [alike.ends?_eq phase]

theorem checkWindows_eq (alike : timing.Resembles other) (calendar : Calendar Instant)
    (floor : Option Instant) (phases : List Phase) :
    timing.checkWindows calendar floor phases = other.checkWindows calendar floor phases := by
  induction phases generalizing floor with
  | nil => rfl
  | cons phase later ih =>
      rw [checkWindows, checkWindows, alike.checkWindow_eq]
      cases other.checkWindow calendar floor phase with
      | error shortfall => rfl
      | ok closing => exact ih (some closing)

theorem check_eq (alike : timing.Resembles other) (calendar : Calendar Instant) :
    timing.check calendar = other.check calendar := by
  rw [check, check, alike.zone, alike.checkWindows_eq]

end Resembles

end Timing

/-! ## The people and the registrar -/

theorem isBlankText_eq_of_iff {name other : String} (same : IsBlankName name ↔ IsBlankName other) :
    Text.isBlankText name = Text.isBlankText other := by
  rw [Bool.eq_iff_iff, isBlankText_iff_isBlankName, isBlankText_iff_isBlankName]
  exact same

/-- Entries with the same names have the same blanks. -/
theorem SameBlanks.of_names {Entry : Type} {name : Entry → String} {entries others : List Entry}
    (names : entries.map name = others.map name) : SameBlanks name entries others := by
  have equal : List.Forall₂ (· = ·) (entries.map name) (others.map name) := by
    rw [List.forall₂_eq_eq_eq]
    exact names
  rw [List.forall₂_map_left_iff, List.forall₂_map_right_iff] at equal
  apply equal.imp
  intro entry other same
  rw [same]

/-- Where the same names are blank, the first of them has the same index. -/
theorem SameBlanks.firstBlank?_eq {Entry : Type} {name : Entry → String}
    {entries others : List Entry} (same : SameBlanks name entries others) :
    firstBlank? (entries.map name) = firstBlank? (others.map name) := by
  unfold firstBlank?
  induction same with
  | nil => rfl
  | @cons entry other _ _ here _ ih =>
      rw [List.map_cons, List.map_cons, List.findIdx?_cons, List.findIdx?_cons,
        isBlankText_eq_of_iff here, ih]

theorem CandidatesResemble.of_names {requirements : Requirements}
    {candidates others : List Candidate}
    (names : candidates.map Candidate.name = others.map Candidate.name) :
    CandidatesResemble requirements candidates others where
  count := (SameBlanks.of_names names).length_eq
  blanks _ := .of_names names

theorem CandidatesResemble.check_eq {requirements : Requirements}
    {candidates others : List Candidate}
    (alike : CandidatesResemble requirements candidates others) :
    checkCandidates requirements candidates = checkCandidates requirements others := by
  unfold checkCandidates
  rw [alike.count]
  cases names : requirements.candidateNames with
  | strict => rw [(alike.blanks names).firstBlank?_eq]
  | lenient => rfl

theorem SameBlanks.checkTrustees_eq {requirements : Requirements} {trustees others : List Trustee}
    (same : SameBlanks Trustee.name trustees others) :
    checkTrustees requirements trustees = checkTrustees requirements others := by
  unfold checkTrustees
  rw [same.firstBlank?_eq, List.Forall₂.length_eq same]

theorem Registrar.Resembles.check_eq {registrar other : Registrar}
    (alike : registrar.Resembles other) : registrar.check = other.check := by
  have address : registrar.registrationUrl.getD "" = other.registrationUrl.getD "" := alike.address
  rw [check, check, isBlankText_eq_of_iff alike.blank, address]

/-! ## All stages -/

namespace Setup

/-- A section that is missing on both sides, or has contents of the same outcome. -/
theorem checkSection_eq_of_rel {Section : Type} {missing : Shortfall}
    {check : Section → Except Shortfall Unit} {alike : Section → Section → Prop}
    {content other : Option Section} (related : Option.Rel alike content other)
    (same : ∀ one another, alike one another → check one = check another) :
    checkSection missing check content = checkSection missing check other := by
  cases related with
  | some here => exact same _ _ here
  | none => rfl

variable {Instant : Type} [LT Instant] [DecidableLT Instant]

/-- Setups that resemble each other at a stage have the same outcome there. -/
theorem check_eq_of_resembles {setup other : Setup} {requirements : Requirements} {stage : Stage}
    (calendar : Calendar Instant) (alike : setup.Resembles requirements other stage) :
    setup.check requirements calendar stage = other.check requirements calendar stage := by
  cases stage with
  | basics =>
      obtain ⟨parameters, named⟩ := alike
      have none : setup.encryptionParameters.isNone = other.encryptionParameters.isNone := by
        rw [← Option.not_isSome, ← Option.not_isSome, parameters]
      have empty : setup.name.isEmpty = other.name.isEmpty := by
        rw [Bool.eq_iff_iff, String.isEmpty_iff, String.isEmpty_iff]
        exact named
      simp only [check, checkBasics, none, empty]
  | timing => exact checkSection_eq_of_rel alike fun _ _ here => here.check_eq calendar
  | candidates => exact checkSection_eq_of_rel alike fun _ _ here => here.check_eq
  | trustees => exact checkSection_eq_of_rel alike fun _ _ here => here.checkTrustees_eq
  | registrar => exact checkSection_eq_of_rel alike fun _ _ here => here.check_eq
  | genesis => rfl

/-- **Only what is observed up to the active stage counts.**  A setup that resembles another at
every stage up to the one where the other stops has the same assessment: the same stages are
complete, the same one is active, and the same falls short. -/
theorem resembling_setups_are_assessed_alike {setup other : Setup} {requirements : Requirements}
    {calendar : Calendar Instant}
    (alike : ∀ stage ≤ (setup.assess requirements calendar).progress.active,
      setup.Resembles requirements other stage) :
    other.assess requirements calendar = setup.assess requirements calendar := by
  refine assess_eq_of_agree fun stage reached => ?_
  exact (check_eq_of_resembles calendar (alike stage reached)).symm

/-- Where candidates need no names, a setup stops at its second trustee, whose name is blank.  So
does one with other keys, ids and names, in which a candidate has no name and the registrar is
missing. -/
theorem stops_at_same_trustee :
    let calendar : Calendar Nat := ⟨fun zone => zone == "UTC", fun text =>
      if text = "early" then some 1 else if text = "late" then some 2 else none⟩
    let lenient : Requirements := { minTrustees := 2, candidateNames := .lenient }
    let window (opens closes : String) : Option Window := some ⟨some opens, some closes⟩
    let timing : Timing :=
      { timeZone := "UTC"
        parameterConfirmation := window "early" "early"
        voterRegistration := window "early" "late"
        voteCasting := window "late" "late"
        tallyDecryption := window "late" "late" }
    let setup : Setup :=
      { name := "Town Vote"
        encryptionParameters := some ⟨"Ag", "Aw", "AQ"⟩
        timing := some timing
        candidates := some (Candidate.ofNames ["Anna", "Bob"])
        trustees := some (Trustee.ofNames ["Tara", ""])
        registrar := some { name := "Town Hall", registrationUrl := some "https://x.com" } }
    let other : Setup :=
      { name := "Village Vote"
        encryptionParameters := some ⟨"", "", ""⟩
        timing := some timing
        candidates := some [{ name := "Cleo" }, { id := "c2" }]
        trustees := some
          [{ name := "Tess", verificationKey := some ⟨"Bw"⟩, publicExponents := ["Cg", "Cw"] },
            { id := "t9", name := "\t ", signature := some ⟨"c", "r"⟩ }] }
    (setup.assess lenient calendar).progress = ⟨.trustees, [.basics, .timing, .candidates]⟩ ∧
      (setup.assess lenient calendar).shortfall? = some (.blankTrusteeName 1) ∧
      other.assess lenient calendar = setup.assess lenient calendar := by
  intro calendar lenient window timing setup other
  have stopped : setup.assess lenient calendar =
      ⟨⟨.trustees, [.basics, .timing, .candidates]⟩, some (.blankTrusteeName 1)⟩ := rfl
  have blanks : SameBlanks Trustee.name (Trustee.ofNames ["Tara", ""])
      [{ name := "Tess", verificationKey := some ⟨"Bw"⟩, publicExponents := ["Cg", "Cw"] },
        { id := "t9", name := "\t ", signature := some ⟨"c", "r"⟩ }] := by
    unfold SameBlanks IsBlankName
    exact .cons (by decide) (.cons (by decide) .nil)
  refine ⟨by rw [stopped], by rw [stopped], resembling_setups_are_assessed_alike ?_⟩
  intro stage reached
  rw [stopped] at reached
  cases stage with
  | basics => exact ⟨rfl, by decide⟩
  | timing => exact .some ⟨rfl, fun _ => rfl⟩
  | candidates => exact .some ⟨rfl, fun strict => nomatch strict⟩
  | trustees => exact .some blanks
  | registrar | genesis => exact absurd reached (by decide)

end Setup

end ElectionReadiness
