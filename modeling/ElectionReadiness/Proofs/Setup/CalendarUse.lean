import ElectionReadiness.Proofs.Setup.FirstViolation
import Mathlib.Order.Monotone.Basic

/-!
# What an assessment asks of a calendar

An assessment asks a calendar whether the zone of the election is one, which of the texts at the
boundaries are timestamps, and which of two instants is the earlier.  Calendars that answer these
questions alike (`Timing.ReadAlike`) lead to one assessment, though their instants be of different
types (`Setup.calendars_count_by_answers`).  It follows that instants may be given any other
labels that increase with them.

The proof follows two checks side by side.  The instants that they meet are related when both
calendars read them from one text (`Timing.SameText`), and related instants compare alike.  A
window keeps the floors of the two checks related, or stops both with the same shortfall
(`Timing.ReadAlike.checkWindow_agrees`), so by induction on the phases both checks end alike.
-/

set_option autoImplicit false

namespace ElectionReadiness

/-! ## Calendars that answer alike -/

namespace Timing

variable {Instant Other : Type}

/-- A text stands at a boundary, and is not empty. -/
def Writes (timing : Timing) (text : String) : Prop :=
  ∃ boundary, timing.written? boundary = some text ∧ text ≠ ""

/-- Two calendars agree on the zone of a timing, on which of its texts are timestamps, and on
which of two timestamps is the earlier. -/
structure ReadAlike [LT Instant] [LT Other] (timing : Timing) (calendar : Calendar Instant)
    (other : Calendar Other) : Prop where
  zone : calendar.isTimeZone timing.timeZone = other.isTimeZone timing.timeZone
  readable : ∀ text, timing.Writes text →
    (calendar.instant? text).isSome = (other.instant? text).isSome
  order : ∀ text text', timing.Writes text → timing.Writes text' →
    ∀ instant ∈ calendar.instant? text, ∀ instant' ∈ calendar.instant? text',
      ∀ moment ∈ other.instant? text, ∀ moment' ∈ other.instant? text',
        (instant < instant' ↔ moment < moment')

/-- Two calendars read instants from one text of a timing. -/
def SameText (timing : Timing) (calendar : Calendar Instant) (other : Calendar Other)
    (instant : Instant) (moment : Other) : Prop :=
  ∃ text, timing.Writes text ∧ calendar.instant? text = some instant ∧
    other.instant? text = some moment

end Timing

/-- Outcomes with the same shortfall, or with results that are related. -/
inductive OutcomesAgree {α β : Type} (related : α → β → Prop) :
    Except Shortfall α → Except Shortfall β → Prop
  | ok {result : α} {other : β} (here : related result other) :
      OutcomesAgree related (.ok result) (.ok other)
  | error (shortfall : Shortfall) : OutcomesAgree related (.error shortfall) (.error shortfall)

/-! ## Two checks side by side -/

namespace Timing.ReadAlike

section

variable {Instant Other : Type} [LT Instant] [LT Other] {timing : Timing}
  {calendar : Calendar Instant} {other : Calendar Other}

/-- Instants of the same texts compare alike. -/
theorem lt_iff (alike : timing.ReadAlike calendar other) {instant instant' : Instant}
    {moment moment' : Other} (first : timing.SameText calendar other instant moment)
    (second : timing.SameText calendar other instant' moment') :
    instant < instant' ↔ moment < moment' := by
  obtain ⟨text, writes, read, readOther⟩ := first
  obtain ⟨text', writes', read', readOther'⟩ := second
  exact alike.order text text' writes writes' instant read instant' read' moment readOther
    moment' readOther'

/-- A text of the timing is read by both calendars, or by neither. -/
theorem instant?_related (alike : timing.ReadAlike calendar other) {text : String}
    (writes : timing.Writes text) :
    Option.Rel (timing.SameText calendar other) (calendar.instant? text)
      (other.instant? text) := by
  have readable := alike.readable text writes
  cases read : calendar.instant? text with
  | none =>
      cases readOther : other.instant? text with
      | none => exact .none
      | some moment => simp [read, readOther] at readable
  | some instant =>
      cases readOther : other.instant? text with
      | none => simp [read, readOther] at readable
      | some moment => exact .some ⟨text, writes, read, readOther⟩

end

variable {Instant Other : Type} [LT Instant] [DecidableLT Instant] [LT Other] [DecidableLT Other]
  {timing : Timing} {calendar : Calendar Instant} {other : Calendar Other}

/-- An instant is below the one floor exactly if its fellow is below the other. -/
theorem any_floor_eq (alike : timing.ReadAlike calendar other) {floor : Option Instant}
    {otherFloor : Option Other}
    (floors : Option.Rel (timing.SameText calendar other) floor otherFloor) {instant : Instant}
    {moment : Other} (same : timing.SameText calendar other instant moment) :
    (floor.any fun previous => instant < previous) =
      otherFloor.any fun previous => moment < previous := by
  cases floors with
  | none => rfl
  | some previous => exact decide_eq_decide.mpr (alike.lt_iff same previous)

/-- A window above related floors closes at related instants, or stops both checks with the same
shortfall. -/
theorem checkWindow_agrees (alike : timing.ReadAlike calendar other) {floor : Option Instant}
    {otherFloor : Option Other}
    (floors : Option.Rel (timing.SameText calendar other) floor otherFloor) (phase : Phase) :
    OutcomesAgree (timing.SameText calendar other) (timing.checkWindow calendar floor phase)
      (timing.checkWindow other otherFloor phase) := by
  unfold checkWindow
  split
  · exact .error _
  · next opens closes ends =>
    obtain ⟨⟨openWritten, openFilled⟩, closeWritten, closeFilled⟩ := ends?_eq_some_iff.mp ends
    have opened := alike.instant?_related ⟨_, openWritten, openFilled⟩
    have closed := alike.instant?_related ⟨_, closeWritten, closeFilled⟩
    generalize calendar.instant? opens = opening at opened
    generalize other.instant? opens = otherOpening at opened
    generalize calendar.instant? closes = closing at closed
    generalize other.instant? closes = otherClosing at closed
    cases opened with
    | none => exact .error _
    | some opens =>
        dsimp only
        rw [alike.any_floor_eq floors opens]
        split
        · exact .error _
        · cases closed with
          | none => exact .error _
          | some closes =>
              dsimp only
              simp only [alike.lt_iff closes opens]
              split
              · exact .error _
              · exact .ok closes

/-- Windows that follow each other end both checks alike. -/
theorem checkWindows_eq (alike : timing.ReadAlike calendar other) {floor : Option Instant}
    {otherFloor : Option Other}
    (floors : Option.Rel (timing.SameText calendar other) floor otherFloor)
    (phases : List Phase) :
    timing.checkWindows calendar floor phases = timing.checkWindows other otherFloor phases := by
  induction phases generalizing floor otherFloor with
  | nil => rfl
  | cons phase later ih =>
      have window := alike.checkWindow_agrees floors phase
      rw [checkWindows, checkWindows]
      generalize timing.checkWindow calendar floor phase = outcome at window
      generalize timing.checkWindow other otherFloor phase = otherOutcome at window
      cases window with
      | error shortfall => rfl
      | ok closes => exact ih (.some closes)

theorem check_eq (alike : timing.ReadAlike calendar other) :
    timing.check calendar = timing.check other := by
  rw [check, check, alike.zone, alike.checkWindows_eq .none]

end Timing.ReadAlike

/-! ## Other labels for instants -/

/-- The calendar that gives every instant another label. -/
def Calendar.relabelled {Instant Other : Type} (calendar : Calendar Instant)
    (label : Instant → Other) : Calendar Other where
  isTimeZone := calendar.isTimeZone
  instant? text := (calendar.instant? text).map label

/-- Labels that increase with the instants leave every timing as it is. -/
theorem Timing.readAlike_relabelled {Instant Other : Type} [LinearOrder Instant]
    [LinearOrder Other] (timing : Timing) (calendar : Calendar Instant) {label : Instant → Other}
    (increasing : StrictMono label) : timing.ReadAlike calendar (calendar.relabelled label) where
  zone := rfl
  readable := fun text _ => by simp [Calendar.relabelled]
  order := by
    intro text text' _ _ instant read instant' read' moment readOther moment' readOther'
    obtain ⟨labelled, found, rfl⟩ := Option.map_eq_some_iff.mp readOther
    obtain ⟨labelled', found', rfl⟩ := Option.map_eq_some_iff.mp readOther'
    rw [Option.mem_unique read found, Option.mem_unique read' found']
    exact increasing.lt_iff_lt.symm

/-! ## The whole assessment -/

namespace Setup

/-- Calendars that answer alike on the timing lead to one assessment. -/
theorem assess_eq_of_readAlike {Instant Other : Type} [LT Instant] [DecidableLT Instant]
    [LT Other] [DecidableLT Other] (setup : Setup) (requirements : Requirements)
    {calendar : Calendar Instant} {other : Calendar Other}
    (alike : ∀ timing, setup.timing = some timing → timing.ReadAlike calendar other) :
    setup.assess requirements other = setup.assess requirements calendar := by
  refine assess_eq_of_agree fun stage _ => ?_
  cases stage with
  | timing =>
      rw [check, check]
      cases given : setup.timing with
      | none => rfl
      | some timing => exact (alike timing given).check_eq.symm
  | _ => rfl

/-- **A calendar counts by its answers alone.**  Two calendars, whatever their instants are, lead
to one assessment if they agree on the zone, on which texts of the windows are timestamps, and on
which of two timestamps is the earlier.  In particular other labels that increase with the
instants change nothing. -/
theorem calendars_count_by_answers {Instant Other : Type} [LinearOrder Instant]
    [LinearOrder Other] (setup : Setup) (requirements : Requirements)
    (calendar : Calendar Instant) :
    (∀ other : Calendar Other,
      (∀ timing, setup.timing = some timing → timing.ReadAlike calendar other) →
        setup.assess requirements other = setup.assess requirements calendar) ∧
      ∀ label : Instant → Other, StrictMono label →
        setup.assess requirements (calendar.relabelled label) =
          setup.assess requirements calendar := by
  constructor
  · intro other alike
    exact setup.assess_eq_of_readAlike requirements alike
  · intro label increasing
    refine setup.assess_eq_of_readAlike requirements fun timing _ => ?_
    exact timing.readAlike_relabelled calendar increasing

/-- Votes that open too early do so by hours of a day, by years before and after the common era,
and by the minutes of those hours. -/
theorem early_votes_by_any_count :
    let hours : Calendar Nat := ⟨fun zone => zone == "UTC", fun text =>
      if text = "dawn" then some 6 else if text = "noon" then some 12
      else if text = "night" then some 22 else none⟩
    let years : Calendar Int := ⟨fun zone => zone != "Mars", fun text =>
      if text = "dawn" then some (-753) else if text = "noon" then some 117
      else if text = "night" then some 476 else if text = "today" then some 2025 else none⟩
    let window (opens closes : String) : Option Window := some ⟨some opens, some closes⟩
    let timing : Timing :=
      { timeZone := "UTC"
        parameterConfirmation := window "dawn" "dawn"
        voterRegistration := window "dawn" "night"
        voteCasting := window "noon" "never"
        tallyDecryption := window "" "night" }
    let setup : Setup :=
      { name := "Town Vote", encryptionParameters := some ⟨"Ag", "Aw", "AQ"⟩,
        timing := some timing }
    (setup.assess .usual hours).shortfall? = some (.opensBeforePreviousCloses .voteCasting) ∧
      setup.assess .usual years = setup.assess .usual hours ∧
      setup.assess .usual (hours.relabelled (60 * ·)) = setup.assess .usual hours := by
  intro hours years window timing setup
  have words : ∀ text, timing.Writes text → text ∈ ["dawn", "noon", "night", "never"] := by
    rintro text ⟨⟨phase, side⟩, written, filled⟩
    cases phase <;> cases side <;> cases written <;> first | decide | exact absurd rfl filled
  have readable : ∀ text ∈ ["dawn", "noon", "night", "never"],
      (hours.instant? text).isSome = (years.instant? text).isSome := by decide
  have order : ∀ text ∈ ["dawn", "noon", "night", "never"],
      ∀ text' ∈ ["dawn", "noon", "night", "never"],
        ∀ instant ∈ hours.instant? text, ∀ instant' ∈ hours.instant? text',
          ∀ moment ∈ years.instant? text, ∀ moment' ∈ years.instant? text',
            (instant < instant' ↔ moment < moment') := by decide
  have alike : timing.ReadAlike hours years :=
    ⟨rfl, fun text writes => readable text (words text writes), fun text text' writes writes' =>
      order text (words text writes) text' (words text' writes')⟩
  have same := (setup.calendars_count_by_answers .usual hours).1 years
  refine ⟨rfl, same fun other given => ?_, ?_⟩
  · cases given
    exact alike
  · refine (setup.calendars_count_by_answers .usual hours).2 (60 * ·) fun one other before => ?_
    exact Nat.mul_lt_mul_of_pos_left before (by decide)

end Setup

end ElectionReadiness
