import ElectionReadiness.Proofs.Calendar.CivilOrder
import ElectionReadiness.Proofs.Setup.FirstFailing
import ElectionReadiness.Proofs.Setup.Observation
import ElectionReadiness.Proofs.Setup.PassingChecks
import ElectionReadiness.Proofs.Setup.WindowOrder
import ElectionReadiness.Report.Basic
import ElectionReadiness.SetupFile.Basic

/-!
# Which setup files are ready

The report on a setup file says that the election is ready exactly if the fields of the file
itself are filled in as `SetupFile.IsComplete` demands.  A file leaves texts out that the
setup has as empty texts, so it must be shown of each that the empty text does not pass: it
is no name of a zone, no time, no name of a person and no web address.

What the report looks at is kept in `SetupFile.essentials`; the ids, keys, proofs and
signatures, the data on eligibility and the number of trustees are not.  Files with the same
essentials are assessed alike (`SetupFile.assess_essentials`).
`SetupFile.ready_iff_complete` puts both together.
-/

set_option autoImplicit false

namespace ElectionReadiness

/-! ## Complete files -/

/-- A name is there and not blank. -/
def IsNamed (name : Option String) : Prop := ∃ text, name = some text ∧ ¬IsBlankName text

/-- The window of a phase in a file. -/
def TimingEntry.window (entry : TimingEntry) : Phase → Option Window
  | .parameterConfirmation => entry.parameterConfirmation
  | .voterRegistration => entry.voterRegistration
  | .voteCasting => entry.voteCasting
  | .tallyDecryption => entry.tallyDecryption

/-- The zone is a name in the catalog, and the boundaries are civil times that do not
decrease. -/
structure TimingEntry.IsInOrder (entry : TimingEntry) : Prop where
  zone : ∃ zone, entry.timeZone = some zone ∧ zone ∈ TimeZone.names
  boundaries : ∃ civil : Boundary → CivilTime,
    (∀ phase side, ∃ window text, entry.window phase = some window ∧
      window.at side = some text ∧ text ≠ "" ∧ CivilTime.read? text = some (civil ⟨phase, side⟩)) ∧
    ∀ earlier later, earlier < later → civil earlier ≤ civil later

/-- The registrar has a name and a web address under which voters can register. -/
structure RegistrarEntry.IsReachable (entry : RegistrarEntry) : Prop where
  named : IsNamed entry.name
  address : ∃ url scheme, entry.registrationUrl = some url ∧
    WebAddress.scheme? url = some scheme ∧ (scheme = "http" ∨ scheme = "https")

/-- Everything is filled in that an election needs, with so many candidates and trustees at
least. -/
structure SetupFile.IsComplete (file : SetupFile) (minCandidates minTrustees : Nat)
    (names : NameCheck) : Prop where
  name : ∃ name, file.name = some name ∧ name ≠ ""
  parameters : ∃ parameters, file.encryptionSharedParams = some parameters
  timing : ∃ entry, file.timing = some entry ∧ entry.IsInOrder
  candidates : ∃ entries, file.candidates = some entries ∧ minCandidates ≤ entries.length ∧
    (names = .strict → ∀ entry ∈ entries, IsNamed entry.name)
  trustees : ∃ entries, file.trustees = some entries ∧ minTrustees ≤ entries.length ∧
    ∀ entry ∈ entries, IsNamed entry.name
  registrar : ∃ entry, file.registrar = some entry ∧ entry.IsReachable

/-! ## A missing text does not pass as an empty one -/

/-- A name that is left out is blank. -/
theorem isNamed_iff {name : Option String} : IsNamed name ↔ ¬IsBlankName (name.getD "") := by
  cases name with
  | none =>
      have blank : IsBlankName "" := rfl
      simp [IsNamed, blank]
  | some text => simp [IsNamed]

/-- The empty text is no zone. -/
theorem TimeZone.empty_not_mem_names : "" ∉ TimeZone.names := by decide +kernel

theorem TimingEntry.timing_window (entry : TimingEntry) (phase : Phase) :
    entry.timing.window phase = entry.window phase := by
  cases phase <;> rfl

/-- A timing in a file passes if it is in order. -/
theorem TimingEntry.check_eq_ok_iff {entry : TimingEntry} :
    entry.timing.check Calendar.civil = .ok () ↔ entry.IsInOrder := by
  have zone : Calendar.civil.isTimeZone entry.timing.timeZone = true ↔
      ∃ zone, entry.timeZone = some zone ∧ zone ∈ TimeZone.names := by
    have named : Calendar.civil.isTimeZone entry.timing.timeZone = true ↔
        entry.timeZone.getD "" ∈ TimeZone.names := List.contains_iff_mem
    rw [named]
    cases entry.timeZone with
    | none => simp [TimeZone.empty_not_mem_names]
    | some zone => simp
  have reads (boundary : Boundary) (civil : CivilTime) :
      entry.timing.Reads Calendar.civil boundary civil ↔
        ∃ window text, entry.window boundary.phase = some window ∧
          window.at boundary.side = some text ∧ text ≠ "" ∧
            CivilTime.read? text = some civil := by
    simp only [Timing.Reads, Timing.written?, timing_window, Option.bind_eq_some_iff]
    constructor
    · rintro ⟨text, ⟨window, present, written⟩, filled, read⟩
      exact ⟨window, text, present, written, filled, read⟩
    · rintro ⟨window, text, present, written, filled, read⟩
      exact ⟨text, ⟨window, present, written⟩, filled, read⟩
  rw [Timing.check_eq_ok_iff, zone]
  constructor
  · rintro ⟨known, civil, read, sorted⟩
    exact ⟨known, civil, fun phase side => (reads ⟨phase, side⟩ _).mp (read ⟨phase, side⟩), sorted⟩
  · rintro ⟨known, civil, read, sorted⟩
    exact ⟨known, civil, fun boundary => (reads boundary _).mpr (read boundary.phase boundary.side),
      sorted⟩

/-- A registrar in a file passes if voters can reach it. -/
theorem RegistrarEntry.check_eq_ok_iff {entry : RegistrarEntry} :
    entry.registrar.check = .ok () ↔ entry.IsReachable := by
  have address : (∃ scheme, WebAddress.scheme? (entry.registrationUrl.getD "") = some scheme ∧
        scheme ∈ registrationSchemes) ↔
      ∃ url scheme, entry.registrationUrl = some url ∧ WebAddress.scheme? url = some scheme ∧
        (scheme = "http" ∨ scheme = "https") := by
    cases entry.registrationUrl with
    | none => simp [WebAddress.scheme?_empty]
    | some url => simp [registrationSchemes]
  rw [Registrar.check_eq_ok_iff, show entry.registrar.name = entry.name.getD "" from rfl,
    ← isNamed_iff, show entry.registrar.registrationUrl = entry.registrationUrl from rfl, address]
  exact ⟨fun ⟨named, reached⟩ => ⟨named, reached⟩, fun ⟨named, reached⟩ => ⟨named, reached⟩⟩

/-! ## What the checks look at -/

namespace SetupFile

/-- The fields that checks look at. -/
def essentials (file : SetupFile) : SetupFile where
  name := file.name
  encryptionSharedParams := file.encryptionSharedParams.map fun _ => ⟨"", "", ""⟩
  timing := file.timing
  candidates := file.candidates.map (·.map fun entry => { name := entry.name })
  trustees := file.trustees.map (·.map fun entry => { name := entry.name })
  registrar := file.registrar.map fun entry =>
    { name := entry.name, registrationUrl := entry.registrationUrl }

/-- The essentials of a file have in common with the file what the checks look at. -/
theorem essentials_resemble (file : SetupFile) (requirements : Requirements) (stage : Stage) :
    file.essentials.setup.Resembles requirements file.setup stage := by
  obtain ⟨name, parameters, count, registrar, candidates, trustees, timing⟩ := file
  cases stage with
  | basics => cases parameters <;> exact ⟨rfl, .rfl⟩
  | timing =>
      cases timing with
      | none => exact .none
      | some entry => exact .some ⟨rfl, fun _ => rfl⟩
  | candidates =>
      cases candidates with
      | none => exact .none
      | some entries => exact .some (.of_names (by simp [CandidateEntry.candidate]))
  | trustees =>
      cases trustees with
      | none => exact .none
      | some entries => exact .some (.of_names (by simp [TrusteeEntry.trustee]))
  | registrar =>
      cases registrar with
      | none => exact .none
      | some entry => exact .some ⟨.rfl, rfl⟩
  | genesis => trivial

/-- Files with the same essentials are assessed alike. -/
theorem assess_essentials {Instant : Type} [LT Instant] [DecidableLT Instant] (file : SetupFile)
    (requirements : Requirements) (calendar : Calendar Instant) :
    file.essentials.setup.assess requirements calendar =
      file.setup.assess requirements calendar := by
  refine Setup.assess_eq_of_agree fun stage _ => ?_
  exact Setup.check_eq_of_resembles calendar (file.essentials_resemble requirements stage)

/-! ## Ready files -/

/-- A section that the setup has from the file passes if it is there and its content passes. -/
theorem checkSection_map_eq_ok_iff {Entry Section : Type} {missing : Shortfall}
    {check : Section → Except Shortfall Unit} {section? : Entry → Section}
    {content : Option Entry} :
    Setup.checkSection missing check (content.map section?) = .ok () ↔
      ∃ entry, content = some entry ∧ check (section? entry) = .ok () := by
  rw [Setup.checkSection_eq_ok_iff]
  cases content <;> simp

theorem checkBasics_iff {file : SetupFile} :
    file.setup.checkBasics = .ok () ↔
      (∃ parameters, file.encryptionSharedParams = some parameters) ∧
        ∃ name, file.name = some name ∧ name ≠ "" := by
  refine Setup.checkBasics_eq_ok_iff.trans (and_congr_right fun _ => ?_)
  rw [setup]
  cases file.name <;> simp

theorem checkCandidates_iff {requirements : Requirements} {entries : List CandidateEntry} :
    checkCandidates requirements (entries.map CandidateEntry.candidate) = .ok () ↔
      requirements.minCandidates ≤ entries.length ∧
        (requirements.candidateNames = .strict → ∀ entry ∈ entries, IsNamed entry.name) := by
  simp only [checkCandidates_eq_ok_iff, List.length_map, AllNamed, List.forall_mem_map,
    CandidateEntry.candidate, isNamed_iff]

theorem checkTrustees_iff {requirements : Requirements} {entries : List TrusteeEntry} :
    checkTrustees requirements (entries.map TrusteeEntry.trustee) = .ok () ↔
      requirements.minTrustees ≤ entries.length ∧ ∀ entry ∈ entries, IsNamed entry.name := by
  simp only [checkTrustees_eq_ok_iff, List.length_map, AllNamed, List.forall_mem_map,
    TrusteeEntry.trustee, isNamed_iff]

/-- All stages of a file pass if the file is complete. -/
theorem checks_pass_iff {file : SetupFile} {requirements : Requirements} :
    (∀ stage < .genesis, file.setup.check requirements Calendar.civil stage = .ok ()) ↔
      file.IsComplete requirements.minCandidates requirements.minTrustees
        requirements.candidateNames := by
  constructor
  · intro passes
    obtain ⟨parameters, name⟩ := checkBasics_iff.mp (passes .basics (by decide))
    obtain ⟨timing, hasTiming, ordered⟩ :=
      checkSection_map_eq_ok_iff.mp (passes .timing (by decide))
    obtain ⟨candidates, hasCandidates, standing⟩ :=
      checkSection_map_eq_ok_iff.mp (passes .candidates (by decide))
    obtain ⟨trustees, hasTrustees, holding⟩ :=
      checkSection_map_eq_ok_iff.mp (passes .trustees (by decide))
    obtain ⟨registrar, hasRegistrar, reachable⟩ :=
      checkSection_map_eq_ok_iff.mp (passes .registrar (by decide))
    exact {
      name, parameters
      timing := ⟨timing, hasTiming, TimingEntry.check_eq_ok_iff.mp ordered⟩
      candidates := ⟨candidates, hasCandidates, checkCandidates_iff.mp standing⟩
      trustees := ⟨trustees, hasTrustees, checkTrustees_iff.mp holding⟩
      registrar := ⟨registrar, hasRegistrar, RegistrarEntry.check_eq_ok_iff.mp reachable⟩ }
  · intro complete stage before
    obtain ⟨timing, hasTiming, ordered⟩ := complete.timing
    obtain ⟨candidates, hasCandidates, standing⟩ := complete.candidates
    obtain ⟨trustees, hasTrustees, holding⟩ := complete.trustees
    obtain ⟨registrar, hasRegistrar, reachable⟩ := complete.registrar
    cases stage with
    | basics => exact checkBasics_iff.mpr ⟨complete.parameters, complete.name⟩
    | timing =>
        exact checkSection_map_eq_ok_iff.mpr
          ⟨timing, hasTiming, TimingEntry.check_eq_ok_iff.mpr ordered⟩
    | candidates =>
        exact checkSection_map_eq_ok_iff.mpr
          ⟨candidates, hasCandidates, checkCandidates_iff.mpr standing⟩
    | trustees =>
        exact checkSection_map_eq_ok_iff.mpr
          ⟨trustees, hasTrustees, checkTrustees_iff.mpr holding⟩
    | registrar =>
        exact checkSection_map_eq_ok_iff.mpr
          ⟨registrar, hasRegistrar, RegistrarEntry.check_eq_ok_iff.mpr reachable⟩
    | genesis => exact absurd before (by decide)

/-- **A setup file is ready exactly if it is complete.**  With two candidates and three
trustees at least, and with or without names asked of the candidates, the report on the setup
that a file describes says ready if and only if the fields of the file are filled in as they
must be.  Nothing but the essentials of a file has a say in that, whatever is required. -/
theorem ready_iff_complete (file : SetupFile) :
    (∀ (names : NameCheck) (tab : TabChoice),
      (file.setup.report { candidateNames := names } tab).isReady = true ↔
        file.IsComplete 2 3 names) ∧
      ∀ other : SetupFile, other.essentials = file.essentials →
        ∀ (requirements : Requirements) (tab : TabChoice),
          (other.setup.report requirements tab).isReady =
            (file.setup.report requirements tab).isReady := by
  constructor
  · intro names tab
    have ready := (file.setup.ready_tfae { candidateNames := names } Calendar.civil).out 1 2
    exact ready.trans checks_pass_iff
  · intro other same requirements tab
    have alike : other.setup.assessCivil requirements = file.setup.assessCivil requirements := by
      rw [Setup.assessCivil, Setup.assessCivil, ← other.assess_essentials, same,
        file.assess_essentials]
    rw [Setup.report, Setup.report, alike]

/-- A file that has all it needs, with windows that touch and one candidate without a name. -/
def townVote : SetupFile where
  name := some "Town Vote"
  encryptionSharedParams := some ⟨"Ag", "Aw", "AQ"⟩
  timing := some {
    timeZone := some "Europe/London"
    parameterConfirmation := some ⟨some "2025-01-01", some "2025-01-05T00:00:00"⟩
    voterRegistration := some ⟨some "2025-01-05T00:00", some "2025-02-01"⟩
    voteCasting := some ⟨some "2025-02-02T08:00:00", some "2025-02-02T20:00:00"⟩
    tallyDecryption := some ⟨some "2025-02-02T20:00:00", some "2025-02-09"⟩ }
  candidates := some [{ name := some "Anna" }, {}]
  trustees := some [{ name := some "Tara" }, { name := some "Tom" }, { name := some "Tess" }]
  registrar := some {
    name := some "Town Hall"
    registrationUrl := some "HTTPS://[2001:db8::1]/register" }

/-- The same file with ids, keys and another number of trustees. -/
def townVoteWithKeys : SetupFile :=
  { townVote with
    trusteesRequired := some 2
    candidates := some [{ candidateId := some "c1", name := some "Anna" }, {}]
    registrar := some {
      name := some "Town Hall"
      verificationKey := some ⟨"Bw"⟩
      registrationUrl := some "HTTPS://[2001:db8::1]/register" } }

/-- The file is ready if candidates need no names, with keys and without; it is not ready if
they do. -/
theorem town_vote_ready_without_names :
    townVoteWithKeys.essentials = townVote.essentials ∧
      (townVote.setup.report { candidateNames := .lenient } .automatic).isReady = true ∧
      (townVoteWithKeys.setup.report { candidateNames := .lenient } .automatic).isReady = true ∧
      townVoteWithKeys.IsComplete 2 3 .lenient ∧ ¬townVote.IsComplete 2 3 .strict := by
  have same : townVoteWithKeys.essentials = townVote.essentials := by decide +kernel
  have ready :
      (townVote.setup.report { candidateNames := .lenient } .automatic).isReady = true := by
    decide +kernel
  have kept := (ready_iff_complete townVote).2 townVoteWithKeys same
    { candidateNames := .lenient } .automatic
  have withKeys := kept.trans ready
  refine ⟨same, ready, withKeys, ?_, fun complete => ?_⟩
  · exact ((ready_iff_complete townVoteWithKeys).1 .lenient .automatic).mp withKeys
  · have strict := ((ready_iff_complete townVote).1 .strict .automatic).mpr complete
    exact absurd strict (by decide +kernel)

end SetupFile

end ElectionReadiness
