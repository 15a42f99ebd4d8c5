import ElectionReadiness.Proofs.Setup.PassingChecks
import ElectionReadiness.Proofs.Setup.WindowOrder
import ElectionReadiness.Proofs.TimeZone.CatalogOrder
import ElectionReadiness.Report.Basic

/-!
# The order of the schedule

The windows of a complete timing follow each other as civil times, and the schedule gives
their boundaries as universal times.  Each boundary of the schedule is the resolved time of
the very civil time that the check read (`scheduledAt?_eq_resolve`), so the order that the
check established carries over as far as resolving keeps it: in all zones for all times,
except for one night in Dublin (`Setup.schedule_follows_order`).  There a window that passes
the check may close before it opens (`Setup.dublin_closes_before_opening`).
-/

set_option autoImplicit false

namespace ElectionReadiness

/-! ## The boundaries of a schedule -/

/-- The universal time at one end of a scheduled window. -/
def ScheduledPhase.at (scheduled : ScheduledPhase) : Side → Option CivilTime
  | .opening => scheduled.opens
  | .closing => scheduled.closes

/-- The universal time of a boundary in a schedule. -/
def scheduledAt? (schedule : List ScheduledPhase) (boundary : Boundary) : Option CivilTime :=
  (schedule.find? fun scheduled => scheduled.phase == boundary.phase).bind (·.at boundary.side)

theorem Timing.windowOf_at (timing : Timing) (boundary : Boundary) :
    (timing.windowOf boundary.phase).at boundary.side = timing.written? boundary := by
  obtain ⟨phase, side⟩ := boundary
  unfold windowOf written?
  cases timing.window phase <;> cases side <;> rfl

theorem scheduledAt?_schedule (timing : Timing) (boundary : Boundary) :
    scheduledAt? timing.schedule boundary = timing.universal? (timing.written? boundary) := by
  rw [← timing.windowOf_at boundary]
  obtain ⟨phase, side⟩ := boundary
  cases phase <;> cases side <;> rfl

/-- The schedule reads a boundary again as the civil time that the check has read. -/
theorem Timing.Reads.bind_read? {timing : Timing} {boundary : Boundary} {civil : CivilTime}
    (reads : timing.Reads Calendar.civil boundary civil) :
    (timing.written? boundary).bind CivilTime.read? = some civil := by
  obtain ⟨text, written, _, read⟩ := reads
  rw [written, Option.bind_some]
  exact read

/-- A boundary is scheduled at the resolved time of the civil time that is read. -/
theorem scheduledAt?_eq_resolve {timing : Timing} {boundary : Boundary} {civil : CivilTime}
    (reads : timing.Reads Calendar.civil boundary civil) :
    scheduledAt? timing.schedule boundary = TimeZone.resolve timing.timeZone civil := by
  rw [scheduledAt?_schedule, Timing.universal?, reads.bind_read?, Option.bind_some]

namespace Setup

/-- A report that has a schedule has that of the timing. -/
theorem schedule_of_report {setup : Setup} {requirements : Requirements} {tab : TabChoice}
    {timing : Timing} (present : setup.timing = some timing) {schedule : List ScheduledPhase}
    (reported : (setup.report requirements tab).schedule = some schedule) :
    schedule = timing.schedule := by
  obtain ⟨timing', complete, rfl⟩ := Option.map_eq_some_iff.mp reported
  unfold completeTiming? at complete
  split at complete
  · rw [present, Option.some.injEq] at complete
    rw [complete]
  · cases complete

/-! ## The order -/

/-- **The schedule of a timing that passes its check keeps the order of the civil times, and
keeps different times apart, except for the times of one night in Dublin, whose order it
reverses.** -/
theorem schedule_follows_order (setup : Setup) (requirements : Requirements)
    (passes : setup.check requirements Calendar.civil .timing = .ok ()) :
    ∃ timing, setup.timing = some timing ∧
      (∀ tab schedule, (setup.report requirements tab).schedule = some schedule →
        schedule = timing.schedule) ∧
      ∃ civil : Boundary → CivilTime,
        (∀ boundary, timing.Reads Calendar.civil boundary (civil boundary)) ∧
        ∀ earlier later, earlier < later → ∀ universal universal',
          scheduledAt? timing.schedule earlier = some universal →
          scheduledAt? timing.schedule later = some universal' →
          (¬TimeZone.Reversed timing.timeZone (civil earlier) (civil later) →
            universal ≤ universal' ∧ (civil earlier ≠ civil later → universal < universal')) ∧
          (TimeZone.Reversed timing.timeZone (civil earlier) (civil later) →
            universal' < universal) := by
  obtain ⟨timing, present, checked⟩ := checkSection_eq_ok_iff.mp passes
  obtain ⟨_, civil, reads, sorted⟩ := Timing.check_eq_ok_iff.mp checked
  refine ⟨timing, present, fun tab schedule => schedule_of_report present, civil, reads, ?_⟩
  intro earlier later order universal universal' scheduled scheduled'
  rw [scheduledAt?_eq_resolve (reads _)] at scheduled scheduled'
  rcases lt_or_eq_of_le (sorted earlier later order) with before | same
  · obtain ⟨reverses, keeps⟩ := TimeZone.resolve_order scheduled scheduled' before
    exact ⟨fun kept => ⟨le_of_lt (keeps kept), fun _ => keeps kept⟩, reverses⟩
  · rw [same, scheduled', Option.some.injEq] at scheduled
    subst scheduled
    refine ⟨fun _ => ⟨le_refl _, fun different => absurd same different⟩, ?_⟩
    rintro ⟨_, ⟨_, early⟩, late, _⟩
    rw [same] at early
    exact absurd (Int.lt_of_lt_of_le early late) (Int.lt_irrefl _)

/-- A timing in Lagos, where the clocks went back by 13 minutes and 35 seconds at the end of
June 1905 and forward again three years later. -/
def lagosTiming : Timing where
  timeZone := "Africa/Lagos"
  parameterConfirmation := some ⟨some "1905-06-30T23:50:00", some "1905-06-30T23:59:60.5"⟩
  voterRegistration := some ⟨some "1905-07-01", some "1905-07-01T00:00"⟩
  voteCasting := some ⟨some "1908-07-01T00:05:00", some "1908-07-01T00:05:00"⟩
  tallyDecryption := some ⟨some "2024-06-01", some "+12024-06-01T12:00"⟩

/-- A leap second before the clocks have gone back is before the midnight after it. -/
theorem lagos_leap_second_before_midnight :
    let setup : Setup := { timing := some lagosTiming }
    setup.check .usual Calendar.civil .timing = .ok () ∧
      ∃ closing opening,
        scheduledAt? lagosTiming.schedule ⟨.parameterConfirmation, .closing⟩ = some closing ∧
        scheduledAt? lagosTiming.schedule ⟨.voterRegistration, .opening⟩ = some opening ∧
        closing < opening := by
  intro setup
  have passes : setup.check .usual Calendar.civil .timing = .ok () := by decide +kernel
  obtain ⟨timing, present, _, civil, reads, ordered⟩ := schedule_follows_order setup .usual passes
  have same : lagosTiming = timing := Option.some.inj present
  subst same
  obtain ⟨closing, closes⟩ := Option.isSome_iff_exists.mp
    (by decide +kernel :
      (scheduledAt? lagosTiming.schedule ⟨.parameterConfirmation, .closing⟩).isSome = true)
  obtain ⟨opening, opens⟩ := Option.isSome_iff_exists.mp
    (by decide +kernel :
      (scheduledAt? lagosTiming.schedule ⟨.voterRegistration, .opening⟩).isSome = true)
  refine ⟨passes, closing, opening, closes, opens, ?_⟩
  have elsewhere : ∀ one other, ¬TimeZone.Reversed lagosTiming.timeZone one other := by
    rintro one other ⟨inDublin, _⟩
    exact absurd inDublin (by decide)
  have kept := (ordered ⟨.parameterConfirmation, .closing⟩ ⟨.voterRegistration, .opening⟩
    (by decide) closing opening closes opens).1 (elsewhere _ _)
  refine kept.2 ?_
  intro same
  obtain ⟨text, written, _, read⟩ := reads ⟨.parameterConfirmation, .closing⟩
  obtain ⟨text', written', _, read'⟩ := reads ⟨.voterRegistration, .opening⟩
  have leapSecond : "1905-06-30T23:59:60.5" = text := Option.some.inj written
  have midnight : "1905-07-01" = text' := Option.some.inj written'
  subst leapSecond midnight
  rw [same, ← read'] at read
  exact absurd read (by decide +kernel)

/-- A timing in Dublin whose first window lies in the night of 1 October 1916. -/
def dublinTiming : Timing where
  timeZone := "Europe/Dublin"
  parameterConfirmation := some ⟨some "1916-10-01T02:10:00", some "1916-10-01T02:30:00"⟩
  voterRegistration := some ⟨some "1917-01-01", some "1917-01-02"⟩
  voteCasting := some ⟨some "1917-01-03", some "1917-01-04"⟩
  tallyDecryption := some ⟨some "1917-01-05", some "1917-01-06"⟩

/-- A window in Dublin that passes the check is scheduled to close before it opens. -/
theorem dublin_closes_before_opening :
    let setup : Setup := { timing := some dublinTiming }
    setup.check .usual Calendar.civil .timing = .ok () ∧
      ∃ opening closing,
        scheduledAt? dublinTiming.schedule ⟨.parameterConfirmation, .opening⟩ = some opening ∧
        scheduledAt? dublinTiming.schedule ⟨.parameterConfirmation, .closing⟩ = some closing ∧
        closing < opening := by
  refine ⟨by decide +kernel, ⟨-19450, 7800, 0, ?_, ?_, ?_, ?_⟩, ⟨-19450, 5400, 0, ?_, ?_, ?_, ?_⟩,
    ?_, ?_, ?_⟩
  all_goals decide +kernel

end Setup

end ElectionReadiness
