import ElectionReadiness.Proofs.Setup.Condition
import ElectionReadiness.Proofs.Setup.FirstFailing

/-!
# The shortfall is the first violated condition

Of the conditions that a setup must meet, the shortfall of an assessment reports the first
that is violated: all before it hold, and what it carries is what the setup holds there
(`Setup.shortfall_is_first_violation`).

A check `Decides` a list of conditions if it passes when all hold, and else gives a shortfall
that reports the first violated.  Every check decides the conditions of its stage
(`Setup.decides_check`), which is shown by going through the check and the list side by side:
a condition that holds is passed over, and one that is violated ends both.  For the windows
the induction is on the phases, and the invariant is that the floor is the instant at which
the previous phase closes (`Timing.IsFloor`).
-/

set_option autoImplicit false

namespace ElectionReadiness

/-! ## Deciding conditions -/

namespace Condition

variable {Instant : Type} [LT Instant] {setup : Setup} {requirements : Requirements}
  {calendar : Calendar Instant}

/-- A shortfall reports the first of some conditions that is violated. -/
def FirstViolated (setup : Setup) (requirements : Requirements) (calendar : Calendar Instant)
    (conditions : List Condition) (shortfall : Shortfall) : Prop :=
  ∃ before condition after, conditions = before ++ condition :: after ∧
    (∀ earlier ∈ before, Holds setup requirements calendar earlier) ∧
    ¬Holds setup requirements calendar condition ∧
    condition.IsReportedBy setup requirements shortfall

/-- An outcome tells whether conditions hold, and the first violated if they do not. -/
def Decides {α : Type} (setup : Setup) (requirements : Requirements)
    (calendar : Calendar Instant) (conditions : List Condition) : Except Shortfall α → Prop
  | .ok _ => ∀ condition ∈ conditions, Holds setup requirements calendar condition
  | .error shortfall => FirstViolated setup requirements calendar conditions shortfall

section

variable {α : Type} {condition : Condition} {conditions more : List Condition}
  {shortfall : Shortfall} {outcome : Except Shortfall α}

theorem decides_violated (violated : ¬Holds setup requirements calendar condition)
    (reported : condition.IsReportedBy setup requirements shortfall) :
    Decides setup requirements calendar (condition :: conditions)
      (.error shortfall : Except Shortfall α) :=
  ⟨[], condition, conditions, rfl, by simp, violated, reported⟩

/-- A condition that holds is passed over. -/
theorem Decides.cons (holds : Holds setup requirements calendar condition)
    (later : Decides setup requirements calendar conditions outcome) :
    Decides setup requirements calendar (condition :: conditions) outcome := by
  cases outcome with
  | ok value =>
      intro other mem
      rcases List.mem_cons.mp mem with rfl | mem
      · exact holds
      · exact later other mem
  | error shortfall =>
      obtain ⟨before, violated, after, rfl, hold, fails, reported⟩ := later
      refine ⟨condition :: before, violated, after, rfl, ?_, fails, reported⟩
      intro earlier mem
      rcases List.mem_cons.mp mem with rfl | mem
      · exact holds
      · exact hold earlier mem

/-- Conditions that hold are passed over. -/
theorem Decides.append
    (hold : ∀ condition ∈ conditions, Holds setup requirements calendar condition)
    (later : Decides setup requirements calendar more outcome) :
    Decides setup requirements calendar (conditions ++ more) outcome := by
  induction conditions with
  | nil => exact later
  | cons first others ih =>
      have rest := ih fun condition mem => hold condition (List.mem_cons_of_mem _ mem)
      exact rest.cons (hold first (List.mem_cons_self ..))

/-- What comes after the first violated condition does not matter. -/
theorem FirstViolated.append
    (violated : FirstViolated setup requirements calendar conditions shortfall)
    (more : List Condition) :
    FirstViolated setup requirements calendar (conditions ++ more) shortfall := by
  obtain ⟨before, condition, after, rfl, hold, fails, reported⟩ := violated
  exact ⟨before, condition, after ++ more, by simp, hold, fails, reported⟩

end

/-! ## There is only one first violated condition -/

/-- A condition is reported in one way. -/
theorem IsReportedBy.unique {condition : Condition} {one other : Shortfall}
    (first : condition.IsReportedBy setup requirements one)
    (second : condition.IsReportedBy setup requirements other) : one = other := by
  cases first <;> cases second <;> try rfl
  case zone.zone given _ given' => rw [Option.some.inj (given.symm.trans given')]
  case opening.opening given written _ _ given' written' =>
    rw [Option.some.inj (given.symm.trans given')] at written
    rw [Option.some.inj (written.symm.trans written')]
  case closing.closing given written _ _ given' written' =>
    rw [Option.some.inj (given.symm.trans given')] at written
    rw [Option.some.inj (written.symm.trans written')]
  case candidateCount.candidateCount given _ _ given' _ =>
    rw [Option.some.inj (given.symm.trans given')]
  case candidateName.candidateName given first _ _ given' first' =>
    rw [Option.some.inj (given.symm.trans given')] at first
    rw [first.unique first']
  case trusteeCount.trusteeCount given _ _ given' _ =>
    rw [Option.some.inj (given.symm.trans given')]
  case trusteeName.trusteeName given first _ _ given' first' =>
    rw [Option.some.inj (given.symm.trans given')] at first
    rw [first.unique first']
  case address.address given _ given' => rw [Option.some.inj (given.symm.trans given')]
  case scheme.scheme given read _ _ given' read' =>
    rw [Option.some.inj (given.symm.trans given')] at read
    rw [Option.some.inj (read.symm.trans read')]

theorem FirstViolated.unique {conditions : List Condition} {one other : Shortfall}
    (first : FirstViolated setup requirements calendar conditions one)
    (second : FirstViolated setup requirements calendar conditions other) : one = other := by
  obtain ⟨before, condition, after, rfl, hold, fails, reported⟩ := first
  obtain ⟨before', condition', after', split, hold', fails', reported'⟩ := second
  -- Of two different places one is before the other, and there the condition would hold.
  rcases List.append_eq_append_iff.mp split with ⟨between, rfl, rest⟩ | ⟨between, rfl, rest⟩
  · cases between with
    | nil =>
        cases rest
        exact reported.unique reported'
    | cons first others =>
        cases rest
        exact absurd (hold' condition (by simp)) fails
  · cases between with
    | nil =>
        cases rest
        exact reported.unique reported'
    | cons first others =>
        cases rest
        exact absurd (hold condition' (by simp)) fails'

end Condition

open Condition

/-! ## The timing -/

/-- A window has both ends exactly if both boundaries are written. -/
theorem Timing.ends?_eq_some_iff {timing : Timing} {phase : Phase} {opens closes : String} :
    (timing.window phase).bind Window.ends? = some (opens, closes) ↔
      (timing.written? ⟨phase, .opening⟩ = some opens ∧ opens ≠ "") ∧
        timing.written? ⟨phase, .closing⟩ = some closes ∧ closes ≠ "" := by
  simp only [Timing.written?]
  cases timing.window phase with
  | none => simp
  | some window =>
      obtain ⟨opens', closes'⟩ := window
      cases opens' with
      | none => simp [Window.ends?, Window.at]
      | some opening =>
          cases closes' with
          | none => simp [Window.ends?, Window.at]
          | some closing =>
              simp only [Option.bind_some, Window.ends?, Window.at, Option.some.injEq]
              constructor
              · intro both
                split at both
                · cases both
                · next filled =>
                  cases both
                  simpa using filled
              · rintro ⟨⟨rfl, openFilled⟩, rfl, closeFilled⟩
                simp [openFilled, closeFilled]

/-- A written boundary is read as what the calendar makes of its text. -/
theorem Timing.reads_iff {Instant : Type} {timing : Timing} {calendar : Calendar Instant}
    {boundary : Boundary} {text : String} {instant : Instant}
    (written : timing.written? boundary = some text) (filled : text ≠ "") :
    timing.Reads calendar boundary instant ↔ calendar.instant? text = some instant := by
  constructor
  · rintro ⟨other, written', _, read⟩
    rw [written] at written'
    cases written'
    exact read
  · intro read
    exact ⟨text, written, filled, read⟩

section Check

variable {Instant : Type} [LT Instant] [DecidableLT Instant] {setup : Setup}
  {requirements : Requirements} {calendar : Calendar Instant} {timing : Timing}

/-- The floor of a phase is the instant at which the previous phase closes. -/
def Timing.IsFloor (timing : Timing) (calendar : Calendar Instant) (phase : Phase)
    (floor : Option Instant) : Prop :=
  ∀ closing, floor = some closing ↔
    ∃ previous, phase.previous? = some previous ∧
      timing.Reads calendar ⟨previous, .closing⟩ closing

/-- A window that passes closes at the instant that its check gives. -/
theorem Timing.reads_of_checkWindow {floor : Option Instant} {phase : Phase} {closing : Instant}
    (passes : timing.checkWindow calendar floor phase = .ok closing) :
    timing.Reads calendar ⟨phase, .closing⟩ closing := by
  unfold checkWindow at passes
  split at passes
  · cases passes
  · next opens closes ends =>
    obtain ⟨_, written, filled⟩ := ends?_eq_some_iff.mp ends
    split at passes
    · cases passes
    · split at passes
      · cases passes
      · split at passes
        · cases passes
        · next read =>
          split at passes
          · cases passes
          · cases passes
            exact ⟨closes, written, filled, read⟩

/-- The opening of a window must be read, and be no earlier than the floor.  What follows decides
the conditions on the closing. -/
theorem Timing.decides_opening (given : setup.timing = some timing) {floor : Option Instant}
    {phase : Phase} (isFloor : timing.IsFloor calendar phase floor) {opens : String}
    (written : timing.written? ⟨phase, .opening⟩ = some opens) (filled : opens ≠ "")
    {conditions : List Condition} {closing : Instant → Except Shortfall Instant}
    (later : ∀ opening, timing.Reads calendar ⟨phase, .opening⟩ opening →
      Decides setup requirements calendar conditions (closing opening)) :
    Decides setup requirements calendar (openingRead phase :: followsPrevious phase :: conditions)
      (match calendar.instant? opens with
      | none => .error (.malformedTimestamp phase opens)
      | some opening =>
        if floor.any fun previous => opening < previous then
          .error (.opensBeforePreviousCloses phase)
        else closing opening) := by
  split
  · next unread =>
    refine decides_violated ?_ (.opening given written)
    rintro ⟨other, given', instant, reads⟩
    cases given.symm.trans given'
    rw [(reads_iff written filled).mp reads] at unread
    cases unread
  · next opening read =>
    have reads : timing.Reads calendar ⟨phase, .opening⟩ opening := ⟨opens, written, filled, read⟩
    refine .cons ⟨timing, given, opening, reads⟩ ?_
    split
    · next early =>
      refine decides_violated ?_ .previous
      rintro ⟨other, given', follows⟩
      cases given.symm.trans given'
      cases floor with
      | none => cases early
      | some previous =>
          obtain ⟨before, isBefore, closes⟩ := (isFloor previous).mp rfl
          exact follows before isBefore previous opening closes reads (of_decide_eq_true early)
    · next late =>
      refine .cons ⟨timing, given, ?_⟩ (later opening reads)
      intro before isBefore closing instant closes opens' under
      rw [(isFloor closing).mpr ⟨before, isBefore, closes⟩] at late
      rw [opens'.unique reads] at under
      exact late (decide_eq_true under)

/-- The closing of a window must be read, and be no earlier than its opening. -/
theorem Timing.decides_closing (given : setup.timing = some timing) {phase : Phase}
    {opening : Instant} (opens : timing.Reads calendar ⟨phase, .opening⟩ opening) {closes : String}
    (written : timing.written? ⟨phase, .closing⟩ = some closes) (filled : closes ≠ "") :
    Decides setup requirements calendar [closingRead phase, closesLater phase]
      (match calendar.instant? closes with
      | none => (.error (.malformedTimestamp phase closes) : Except Shortfall Instant)
      | some closing => if closing < opening then .error (.closesBeforeOpens phase)
        else .ok closing) := by
  split
  · next unread =>
    refine decides_violated ?_ (.closing given written)
    rintro ⟨other, given', instant, reads⟩
    cases given.symm.trans given'
    rw [(reads_iff written filled).mp reads] at unread
    cases unread
  · next closing read =>
    have reads : timing.Reads calendar ⟨phase, .closing⟩ closing := ⟨closes, written, filled, read⟩
    refine .cons ⟨timing, given, closing, reads⟩ ?_
    split
    · next reversed =>
      refine decides_violated ?_ .order
      rintro ⟨other, given', ordered⟩
      cases given.symm.trans given'
      exact ordered opening closing opens reads reversed
    · next ordered =>
      refine .cons ⟨timing, given, ?_⟩ (by simp [Decides])
      intro opening' closing' opens' closes' reversed
      rw [opens'.unique opens, closes'.unique reads] at reversed
      exact ordered reversed

/-- The check of a window decides the conditions on it. -/
theorem Timing.decides_checkWindow (given : setup.timing = some timing)
    {floor : Option Instant} {phase : Phase} (isFloor : timing.IsFloor calendar phase floor) :
    Decides setup requirements calendar (ofPhase phase)
      (timing.checkWindow calendar floor phase) := by
  unfold checkWindow
  split
  · next missing =>
    refine decides_violated ?_ .window
    rintro ⟨other, given', written⟩
    cases given.symm.trans given'
    obtain ⟨opens, opened⟩ := written .opening
    obtain ⟨closes, closed⟩ := written .closing
    rw [ends?_eq_some_iff.mpr ⟨opened, closed⟩] at missing
    cases missing
  · next opens closes ends =>
    obtain ⟨⟨openWritten, openFilled⟩, closeWritten, closeFilled⟩ := ends?_eq_some_iff.mp ends
    refine .cons ⟨timing, given, fun side => ?_⟩ ?_
    · cases side with
      | opening => exact ⟨opens, openWritten, openFilled⟩
      | closing => exact ⟨closes, closeWritten, closeFilled⟩
    · exact decides_opening given isFloor openWritten openFilled fun opening reads =>
        decides_closing given reads closeWritten closeFilled

/-- The checks of windows that follow each other decide the conditions on all of them. -/
theorem Timing.decides_checkWindows (given : setup.timing = some timing) {phases : List Phase}
    {floor : Option Instant}
    (following : phases.IsChain fun phase next => next.previous? = some phase)
    (isFloor : ∀ phase ∈ phases.head?, timing.IsFloor calendar phase floor) :
    Decides setup requirements calendar (phases.flatMap ofPhase)
      (timing.checkWindows calendar floor phases) := by
  induction phases generalizing floor with
  | nil => simp [checkWindows, Decides]
  | cons phase later ih =>
      have here : Decides setup requirements calendar (ofPhase phase)
          (timing.checkWindow calendar floor phase) :=
        decides_checkWindow given (isFloor phase rfl)
      rw [checkWindows, List.flatMap_cons]
      split
      · next stopped =>
        rw [stopped] at here
        exact FirstViolated.append here _
      · next closing passes =>
        rw [passes] at here
        refine .append here (ih following.of_cons ?_)
        -- The window that passed closes at the floor of the next.
        intro next isNext other
        have previous : next.previous? = some phase := by
          cases later with
          | nil => cases isNext
          | cons first others =>
              cases isNext
              exact (List.isChain_cons_cons.mp following).1
        have closes := reads_of_checkWindow passes
        constructor
        · rintro ⟨⟩
          exact ⟨phase, previous, closes⟩
        · rintro ⟨before, isBefore, closes'⟩
          cases previous.symm.trans isBefore
          rw [closes.unique closes']

/-- The check of a timing decides the conditions on it. -/
theorem Timing.decides_check (given : setup.timing = some timing) :
    Decides setup requirements calendar (zoneKnown :: Phase.all.flatMap ofPhase)
      (timing.check calendar) := by
  unfold check
  split
  · next known =>
    refine .cons ⟨timing, given, known⟩ (decides_checkWindows given (by decide) ?_)
    -- Nothing is before the first phase, and there is no floor yet.
    rintro phase ⟨⟩ closing
    simp [Phase.previous?]
  · next unknown =>
    refine decides_violated ?_ (.zone given)
    rintro ⟨other, given', known⟩
    cases given.symm.trans given'
    exact unknown known

end Check

/-! ## The people and the registrar -/

/-- The index that is found first is that of the first blank name. -/
theorem firstBlank?_eq_some_iff {names : List String} {index : Nat} :
    firstBlank? names = some index ↔ IsFirstBlank names index := by
  rw [firstBlank?, List.findIdx?_eq_some_iff_getElem]
  constructor
  · rintro ⟨inside, blank, first⟩
    refine ⟨⟨names[index], List.getElem?_eq_getElem inside, isBlankText_iff_isBlankName.mp blank⟩,
      ?_⟩
    rintro place ⟨name, found, blank'⟩
    by_contra before
    obtain ⟨_, rfl⟩ := List.getElem?_eq_some_iff.mp found
    exact first place (Nat.lt_of_not_le before) (isBlankText_iff_isBlankName.mpr blank')
  · rintro ⟨⟨name, found, blank⟩, least⟩
    obtain ⟨inside, rfl⟩ := List.getElem?_eq_some_iff.mp found
    refine ⟨inside, isBlankText_iff_isBlankName.mpr blank, ?_⟩
    intro place before blank'
    have bound : place < names.length := Nat.lt_trans before inside
    have later := least ⟨names[place], List.getElem?_eq_getElem bound,
      isBlankText_iff_isBlankName.mp blank'⟩
    exact absurd before (Nat.not_lt.mpr later)

/-- Where a name is found blank, not all are named. -/
theorem not_allNamed_of_firstBlank? {Entry : Type} {name : Entry → String}
    {entries : List Entry} {index : Nat} (found : firstBlank? (entries.map name) = some index) :
    ¬AllNamed name entries := by
  intro named
  rw [firstBlank?_eq_none_iff.mpr named] at found
  cases found

section

variable {Instant : Type} [LT Instant] {setup : Setup} {requirements : Requirements}
  {calendar : Calendar Instant}

theorem decides_checkCandidates {candidates : List Candidate}
    (given : setup.candidates = some candidates) :
    Decides setup requirements calendar [enoughCandidates, candidatesNamed]
      (checkCandidates requirements candidates) := by
  unfold checkCandidates
  split
  · next few =>
    refine decides_violated ?_ (.candidateCount given few)
    rintro ⟨other, given', enough⟩
    cases given.symm.trans given'
    exact absurd few (Nat.not_lt.mpr enough)
  · next enough =>
    refine .cons ⟨candidates, given, Nat.le_of_not_lt enough⟩ ?_
    split
    · next index strict found =>
      refine decides_violated ?_ (.candidateName given (firstBlank?_eq_some_iff.mp found))
      rintro ⟨other, given', named⟩
      cases given.symm.trans given'
      exact not_allNamed_of_firstBlank? found (named strict)
    · next noBlank =>
      refine .cons ⟨candidates, given, fun strict => ?_⟩ (by simp [Decides])
      rw [← firstBlank?_eq_none_iff]
      cases found : firstBlank? (candidates.map Candidate.name) with
      | none => rfl
      | some index => exact (noBlank index strict found).elim

theorem decides_checkTrustees {trustees : List Trustee} (given : setup.trustees = some trustees) :
    Decides setup requirements calendar [enoughTrustees, trusteesNamed]
      (checkTrustees requirements trustees) := by
  unfold checkTrustees
  split
  · next few =>
    refine decides_violated ?_ (.trusteeCount given few)
    rintro ⟨other, given', enough⟩
    cases given.symm.trans given'
    exact absurd few (Nat.not_lt.mpr enough)
  · next enough =>
    refine .cons ⟨trustees, given, Nat.le_of_not_lt enough⟩ ?_
    split
    · next index found =>
      refine decides_violated ?_ (.trusteeName given (firstBlank?_eq_some_iff.mp found))
      rintro ⟨other, given', named⟩
      cases given.symm.trans given'
      exact not_allNamed_of_firstBlank? found named
    · next found =>
      exact .cons ⟨trustees, given, firstBlank?_eq_none_iff.mp found⟩ (by simp [Decides])

theorem Registrar.decides_check {registrar : Registrar}
    (given : setup.registrar = some registrar) :
    Decides setup requirements calendar [registrarNamed, addressValid, schemeSupported]
      registrar.check := by
  unfold check
  split
  · next blank =>
    refine decides_violated ?_ .registrarName
    rintro ⟨other, given', named⟩
    cases given.symm.trans given'
    exact named (isBlankText_iff_isBlankName.mp blank)
  · next named =>
    refine .cons ⟨registrar, given, fun blank => named (isBlankText_iff_isBlankName.mpr blank)⟩ ?_
    dsimp only
    split
    · next unread =>
      refine decides_violated ?_ (.address given)
      rintro ⟨other, given', scheme, read⟩
      cases given.symm.trans given'
      cases unread.symm.trans read
    · next scheme read =>
      refine .cons ⟨registrar, given, scheme, read⟩ ?_
      split
      · next supported =>
        refine .cons ⟨registrar, given, scheme, read, ?_⟩ (by simp [Decides])
        exact List.contains_iff_mem.mp supported
      · next unsupported =>
        refine decides_violated ?_ (.scheme given read)
        rintro ⟨other, given', scheme', read', supported⟩
        cases given.symm.trans given'
        cases read.symm.trans read'
        exact unsupported (List.contains_iff_mem.mpr supported)

/-! ## The stages -/

theorem Setup.decides_checkBasics :
    Decides setup requirements calendar (ofStage .basics) setup.checkBasics := by
  unfold checkBasics
  split
  · next missing =>
    refine decides_violated ?_ .parameters
    rintro ⟨parameters, given⟩
    rw [given] at missing
    cases missing
  · next given =>
    refine .cons ?_ ?_
    · exact Option.ne_none_iff_exists'.mp fun missing => given (by rw [missing]; rfl)
    split
    · next empty => exact decides_violated (fun named => named (by simpa using empty)) .name
    · next filled => exact .cons (by simpa [Holds] using filled) (by simp [Decides])

/-- A section must be there, and then its own check goes on. -/
theorem Setup.decides_checkSection {Section : Type} {missing : Shortfall}
    {check : Section → Except Shortfall Unit} {content : Option Section} {given : Condition}
    {others : List Condition}
    (means : Holds setup requirements calendar given ↔ ∃ present, content = some present)
    (reported : given.IsReportedBy setup requirements missing)
    (goesOn : ∀ present, content = some present →
      Decides setup requirements calendar others (check present)) :
    Decides setup requirements calendar (given :: others) (checkSection missing check content) := by
  unfold checkSection
  split
  · refine decides_violated ?_ reported
    intro holds
    obtain ⟨present, absurdity⟩ := means.mp holds
    cases absurdity
  · next present => exact .cons (means.mpr ⟨present, rfl⟩) (goesOn present rfl)

end

namespace Setup

variable {Instant : Type} [LT Instant] [DecidableLT Instant]

/-- The check of a stage decides the conditions on it. -/
theorem decides_check (setup : Setup) (requirements : Requirements)
    (calendar : Calendar Instant) (stage : Stage) :
    Decides setup requirements calendar (ofStage stage)
      (setup.check requirements calendar stage) := by
  cases stage with
  | basics => exact decides_checkBasics
  | timing => exact decides_checkSection Iff.rfl .timing fun _ => Timing.decides_check
  | candidates => exact decides_checkSection Iff.rfl .candidates fun _ => decides_checkCandidates
  | trustees => exact decides_checkSection Iff.rfl .trustees fun _ => decides_checkTrustees
  | registrar => exact decides_checkSection Iff.rfl .registrar fun _ => Registrar.decides_check
  | genesis => simp [check, ofStage, Decides]

/-- A check fails with shortfalls of its own stage. -/
theorem stage_of_check_eq_error {setup : Setup} {requirements : Requirements}
    {calendar : Calendar Instant} {stage : Stage} {shortfall : Shortfall}
    (fails : setup.check requirements calendar stage = .error shortfall) :
    shortfall.stage = stage := by
  have decides := setup.decides_check requirements calendar stage
  rw [fails] at decides
  obtain ⟨before, condition, after, split, _, _, reported⟩ := decides
  have asked : condition ∈ ofStage stage := by rw [split]; simp
  rw [reported.stage_eq, Condition.stage_of_mem_ofStage condition asked]

/-- The active stage is the one that falls short. -/
theorem active_eq_stage_of_shortfall? {setup : Setup} {requirements : Requirements}
    {calendar : Calendar Instant} {shortfall : Shortfall}
    (found : (setup.assess requirements calendar).shortfall? = some shortfall) :
    (setup.assess requirements calendar).progress.active = shortfall.stage := by
  have outcome := setup.check_active requirements calendar
  rw [found] at outcome
  exact (stage_of_check_eq_error outcome).symm

/-- An assessment decides all conditions. -/
theorem decides_assess (setup : Setup) (requirements : Requirements)
    (calendar : Calendar Instant) :
    match (setup.assess requirements calendar).shortfall? with
    | none => ∀ condition ∈ Condition.all, Holds setup requirements calendar condition
    | some shortfall => FirstViolated setup requirements calendar Condition.all shortfall := by
  have decides := setup.decides_check requirements calendar
  rcases setup.assess_ends_or_stops requirements calendar with
    ⟨passes, found⟩ | ⟨before, stage, after, shortfall, split, passes, fails, found⟩
  · rw [found]
    intro condition mem
    obtain ⟨stage, _, mem⟩ := List.mem_flatMap.mp mem
    have hold := decides stage
    rw [passes stage] at hold
    exact hold condition mem
  · rw [found, Condition.all, split, List.flatMap_append, List.flatMap_cons]
    have stopped := decides stage
    rw [fails] at stopped
    have decidesRest : Decides setup requirements calendar (ofStage stage ++ after.flatMap ofStage)
        (.error shortfall : Except Shortfall Unit) := FirstViolated.append stopped _
    refine decidesRest.append ?_
    intro condition mem
    obtain ⟨earlier, among, mem⟩ := List.mem_flatMap.mp mem
    have hold := decides earlier
    rw [passes earlier ((Stage.mem_before_split_iff split).mp among)] at hold
    exact hold condition mem

/-- **The shortfall reports the first violated condition.**  It is given exactly if some
condition is violated, all before it hold, and it reports that condition with what the setup
holds there.  Nothing falls short exactly if all conditions hold. -/
theorem shortfall_is_first_violation (setup : Setup) (requirements : Requirements)
    (calendar : Calendar Instant) :
    (∀ shortfall, (setup.assess requirements calendar).shortfall? = some shortfall ↔
      ∃ before condition after, Condition.all = before ++ condition :: after ∧
        (∀ earlier ∈ before, Holds setup requirements calendar earlier) ∧
        ¬Holds setup requirements calendar condition ∧
        condition.IsReportedBy setup requirements shortfall) ∧
      ((setup.assess requirements calendar).shortfall? = none ↔
        ∀ condition ∈ Condition.all, Holds setup requirements calendar condition) := by
  have decides := setup.decides_assess requirements calendar
  cases found : (setup.assess requirements calendar).shortfall? with
  | none =>
      rw [found] at decides
      refine ⟨fun shortfall => ⟨fun absurdity => (nomatch absurdity), ?_⟩, by simpa using decides⟩
      rintro ⟨before, condition, after, split, _, fails, _⟩
      exact absurd (decides condition (split ▸ by simp)) fails
  | some first =>
      rw [found] at decides
      refine ⟨fun shortfall => ⟨?_, ?_⟩, fun absurdity => (nomatch absurdity), ?_⟩
      · rintro ⟨⟩
        exact decides
      · intro violated
        rw [FirstViolated.unique decides violated]
      · intro hold
        obtain ⟨before, condition, after, split, _, fails, _⟩ := decides
        exact absurd (hold condition (split ▸ by simp)) fails

/-- Votes that are cast before the registration closes are reported, not the unreadable closing
of the same window, nor the candidates that are missing. -/
theorem early_vote_is_reported_first :
    let calendar : Calendar Nat := ⟨fun _ => true, fun text =>
      if text = "early" then some 1 else if text = "late" then some 2 else none⟩
    let window (opens closes : String) : Option Window := some ⟨some opens, some closes⟩
    let timing : Timing :=
      { parameterConfirmation := window "early" "early"
        voterRegistration := window "early" "late"
        voteCasting := window "early" "never" }
    let setup : Setup :=
      { name := "Town Vote", encryptionParameters := some ⟨"Ag", "Aw", "AQ"⟩,
        timing := some timing }
    (setup.assess .usual calendar).shortfall? = some (.opensBeforePreviousCloses .voteCasting) ∧
      ∃ before condition after, Condition.all = before ++ condition :: after ∧
        (∀ earlier ∈ before, Holds setup .usual calendar earlier) ∧
        ¬Holds setup .usual calendar condition ∧
        condition.IsReportedBy setup .usual (.opensBeforePreviousCloses .voteCasting) := by
  intro calendar window timing setup
  have stopped : (setup.assess .usual calendar).shortfall? =
      some (.opensBeforePreviousCloses .voteCasting) := rfl
  exact ⟨stopped, ((shortfall_is_first_violation setup .usual calendar).1 _).mp stopped⟩

end Setup

end ElectionReadiness
