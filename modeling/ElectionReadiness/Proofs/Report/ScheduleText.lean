import ElectionReadiness.Proofs.Calendar.WrittenTime
import ElectionReadiness.Proofs.Report.ScheduleOrder
import ElectionReadiness.Proofs.TimeZone.FirstShowing
import ElectionReadiness.Report.Writer

/-!
# The texts of a schedule

A report gives every resolved time of its schedule as a text: the universal time to the second,
and the offset of universal time.  Without the offset it is a civil time again, and reading it
gives back the universal time (`schedule_texts_denote_instants`), so different instants have
different texts.

That fails only for leap seconds in a zone whose clocks are off universal time by odd seconds.
There the leap second ends a minute of the zone but none of universal time, and a text cannot
show it: the universal time that it resolves to is no clock time
(`TimeZone.isClockTime_iff_of_resolve`).
-/

set_option autoImplicit false

namespace ElectionReadiness

/-! ## Leap seconds of universal time -/

namespace TimeZone

/-- A civil time is no leap second, or the clocks of the zone are off universal time by whole
minutes when they show it. -/
def KeepsLeapSecond (zone : String) (civil universal : CivilTime) : Prop :=
  civil.nano < 1000000000 ∨
    ∃ history, history? zone = some history ∧
      history.timeline.offsetAt universal.wholeSeconds % 60 = 0

theorem keepsLeapSecond_iff {zone : String} {history : ZoneHistory}
    (known : history? zone = some history) {civil universal : CivilTime} :
    KeepsLeapSecond zone civil universal ↔
      civil.nano < 1000000000 ∨ history.timeline.offsetAt universal.wholeSeconds % 60 = 0 := by
  simp [KeepsLeapSecond, known]

/-- A civil time is shown at the universal time that it resolves to. -/
theorem localTime_of_resolve {zone : String} {civil universal : CivilTime}
    (resolved : resolve zone civil = some universal) :
    ∃ history, history? zone = some history ∧
      history.timeline.localTime universal = some civil := by
  obtain ⟨history, known, found⟩ := Option.bind_eq_some_iff.mp resolved
  exact ⟨history, known, Timeline.mem_showings_iff.mp (Timeline.isLeast_of_resolve found).1⟩

/-- Of the clock times of a zone, those that keep leap seconds are clock times of universal
time. -/
theorem isClockTime_iff_of_resolve {zone : String} {civil universal : CivilTime}
    (clock : civil.IsClockTime) (resolved : resolve zone civil = some universal) :
    universal.IsClockTime ↔ KeepsLeapSecond zone civil universal := by
  obtain ⟨history, known, shown⟩ := localTime_of_resolve resolved
  obtain ⟨seconds, nano⟩ := CivilTime.shift_eq_some_iff.mp shown
  -- Days are whole minutes, so the seconds of the minute differ by those of the offset.
  have here : universal.wholeSeconds = 86400 * universal.day + universal.second := rfl
  have there : civil.wholeSeconds = 86400 * civil.day + civil.second := rfl
  unfold CivilTime.IsClockTime at clock ⊢
  rw [keepsLeapSecond_iff known]
  omega

end TimeZone

/-! ## Universal times and their texts -/

namespace CivilTime

/-- The text of a universal time without its offset. -/
def universalPart (time : CivilTime) : String := String.ofList (time.write 'T')

theorem universalText_eq (time : CivilTime) :
    time.universalText = time.universalPart ++ "+00:00" := by
  rw [universalText, universalPart, String.ofList_append, String.ofList_toList]

/-- Clock times with the same text are the same. -/
theorem eq_of_universalText {one other : CivilTime} (clock : one.IsClockTime)
    (clock' : other.IsClockTime) (same : one.universalText = other.universalText) :
    one = other := by
  have written : one.write 'T' = other.write 'T' :=
    List.append_cancel_right (String.ofList_injective same)
  have read := (read?_write_iff one).mpr clock
  rw [written, (read?_write_iff other).mpr clock', Option.some.injEq] at read
  exact read.symm

end CivilTime

/-! ## The schedule -/

/-- A timing schedules a boundary at a universal time that keeps leap seconds. -/
structure Timing.SchedulesInFull (timing : Timing) (boundary : Boundary)
    (universal : CivilTime) : Prop where
  scheduled : scheduledAt? timing.schedule boundary = some universal
  keeps : ∃ civil, timing.Reads Calendar.civil boundary civil ∧
    TimeZone.KeepsLeapSecond timing.timeZone civil universal

theorem Timing.SchedulesInFull.isClockTime {timing : Timing} {boundary : Boundary}
    {universal : CivilTime} (inFull : timing.SchedulesInFull boundary universal) :
    universal.IsClockTime := by
  obtain ⟨scheduled, civil, reads, keeps⟩ := inFull
  rw [scheduledAt?_eq_resolve reads] at scheduled
  obtain ⟨text, _, _, read⟩ := reads
  exact (TimeZone.isClockTime_iff_of_resolve (CivilTime.isClockTime_of_read? read) scheduled).mpr
    keeps

/-- **The texts of a schedule denote its instants.**  A time that resolves is written as a time to
the second and the offset of universal time.  Without the offset it is read as the very
universal time, provided that the civil time was no leap second or the clocks of the zone were
off by whole minutes, and only then.  So boundaries that are scheduled in full, in one schedule
or in two, have the same text only if they are the same instant. -/
theorem schedule_texts_denote_instants :
    (∀ (zone : String) (civil universal : CivilTime),
      civil.IsClockTime → TimeZone.resolve zone civil = some universal →
      ∃ written, universal.universalValue = .string (written ++ "+00:00") ∧
        CivilTime.Spells .seconds written.toList universal.fields ∧
        (CivilTime.read? written = some universal ↔
          TimeZone.KeepsLeapSecond zone civil universal)) ∧
    ∀ (timing timing' : Timing) (boundary boundary' : Boundary) (universal universal' : CivilTime),
      timing.SchedulesInFull boundary universal →
      timing'.SchedulesInFull boundary' universal' →
      universal.universalValue = universal'.universalValue → universal = universal' := by
  constructor
  · intro zone civil universal clock resolved
    refine ⟨universal.universalPart, ?_, ?_, ?_⟩
    · rw [CivilTime.universalValue, CivilTime.universalText_eq]
    · rw [CivilTime.universalPart, String.toList_ofList]
      exact CivilTime.spells_write universal
    · exact (CivilTime.read?_write_iff universal).trans
        (TimeZone.isClockTime_iff_of_resolve clock resolved)
  · intro timing timing' boundary boundary' universal universal' inFull inFull' same
    have texts : universal.universalText = universal'.universalText := by
      simpa [CivilTime.universalValue] using same
    exact CivilTime.eq_of_universalText inFull.isClockTime inFull'.isClockTime texts

/-- What a text of a zone comes to, told from its evaluation. -/
theorem exists_resolved {zone text shown : String} {nano : Nat} {offset : Int}
    (evaluated : ((CivilTime.read? text).bind (TimeZone.resolve zone)).bind (fun universal =>
      (TimeZone.history? zone).map fun history => (universal.universalText, universal.nano,
        history.timeline.offsetAt universal.wholeSeconds)) = some (shown, nano, offset)) :
    ∃ civil universal, CivilTime.read? text = some civil ∧
      TimeZone.resolve zone civil = some universal ∧ universal.universalText = shown ∧
      (TimeZone.KeepsLeapSecond zone civil universal ↔ nano < 1000000000 ∨ offset % 60 = 0) := by
  obtain ⟨universal, found, evaluated⟩ := Option.bind_eq_some_iff.mp evaluated
  obtain ⟨civil, read, resolved⟩ := Option.bind_eq_some_iff.mp found
  obtain ⟨history, known, parts⟩ := Option.map_eq_some_iff.mp evaluated
  obtain ⟨history', known', localTime⟩ := TimeZone.localTime_of_resolve resolved
  have same : universal.nano = civil.nano := (CivilTime.shift_eq_some_iff.mp localTime).2.symm
  cases parts
  exact ⟨civil, universal, read, resolved, rfl, by rw [TimeZone.keepsLeapSecond_iff known, same]⟩

/-- The timing of Lagos with its last window in universal time. -/
def universalTiming : Timing :=
  { Setup.lagosTiming with
    timeZone := "UTC"
    tallyDecryption := some ⟨some "2024-05-31T23:00", some "2024-06-30"⟩ }

/-- In Lagos a leap second of the year 12024 is read again from its text.  One of 1905, when Lagos
was 13 minutes and 35 seconds ahead of universal time, is not.  The midnight that is scheduled in
Lagos has the text of the hour before it in universal time. -/
theorem lagos_texts_are_read_again :
    (∃ civil universal written,
      CivilTime.read? "+12024-07-01T00:59:60.000000001" = some civil ∧
      TimeZone.resolve "Africa/Lagos" civil = some universal ∧
      universal.universalText = "+12024-06-30T23:59:60.000000001+00:00" ∧
      universal.universalValue = .string (written ++ "+00:00") ∧
      CivilTime.read? written = some universal) ∧
    (∃ civil universal written, CivilTime.read? "1905-06-30T23:59:60.5" = some civil ∧
      TimeZone.resolve "Africa/Lagos" civil = some universal ∧
      universal.universalText = "1905-06-30T23:46:25.500+00:00" ∧
      universal.universalValue = .string (written ++ "+00:00") ∧
      CivilTime.read? written ≠ some universal) ∧
    ∃ midnight hourBefore,
      Setup.lagosTiming.SchedulesInFull ⟨.tallyDecryption, .opening⟩ midnight ∧
      universalTiming.SchedulesInFull ⟨.tallyDecryption, .opening⟩ hourBefore ∧
      midnight.universalText = "2024-05-31T23:00:00+00:00" ∧ midnight = hourBefore := by
  refine ⟨?_, ?_, ?_⟩
  · obtain ⟨civil, universal, read, resolved, text, keeps⟩ :=
      @exists_resolved "Africa/Lagos" "+12024-07-01T00:59:60.000000001"
        "+12024-06-30T23:59:60.000000001+00:00" 1000000001 3600 (by decide +kernel)
    obtain ⟨written, value, _, again⟩ := schedule_texts_denote_instants.1 _ _ _
      (CivilTime.isClockTime_of_read? read) resolved
    exact ⟨civil, universal, written, read, resolved, text, value,
      again.mpr (keeps.mpr (.inr rfl))⟩
  · obtain ⟨civil, universal, read, resolved, text, keeps⟩ :=
      @exists_resolved "Africa/Lagos" "1905-06-30T23:59:60.5"
        "1905-06-30T23:46:25.500+00:00" 1500000000 815 (by decide +kernel)
    obtain ⟨written, value, _, again⟩ := schedule_texts_denote_instants.1 _ _ _
      (CivilTime.isClockTime_of_read? read) resolved
    refine ⟨civil, universal, written, read, resolved, text, value, fun kept => ?_⟩
    exact absurd (keeps.mp (again.mp kept)) (by decide)
  · obtain ⟨civil, midnight, read, resolved, text, keeps⟩ :=
      @exists_resolved "Africa/Lagos" "2024-06-01" "2024-05-31T23:00:00+00:00" 0 3600
        (by decide +kernel)
    obtain ⟨civil', hourBefore, read', resolved', text', keeps'⟩ :=
      @exists_resolved "UTC" "2024-05-31T23:00" "2024-05-31T23:00:00+00:00" 0 0
        (by decide +kernel)
    have reads : Setup.lagosTiming.Reads Calendar.civil ⟨.tallyDecryption, .opening⟩ civil :=
      ⟨_, rfl, by decide, read⟩
    have reads' : universalTiming.Reads Calendar.civil ⟨.tallyDecryption, .opening⟩ civil' :=
      ⟨_, rfl, by decide, read'⟩
    have inFull : Setup.lagosTiming.SchedulesInFull ⟨.tallyDecryption, .opening⟩ midnight :=
      ⟨(scheduledAt?_eq_resolve reads).trans resolved, civil, reads, keeps.mpr (.inr rfl)⟩
    have inFull' : universalTiming.SchedulesInFull ⟨.tallyDecryption, .opening⟩ hourBefore :=
      ⟨(scheduledAt?_eq_resolve reads').trans resolved', civil', reads', keeps'.mpr (.inr rfl)⟩
    have same : midnight.universalValue = hourBefore.universalValue := by
      rw [CivilTime.universalValue, CivilTime.universalValue, text, text']
    exact ⟨midnight, hourBefore, inFull, inFull', text,
      schedule_texts_denote_instants.2 _ _ _ _ _ _ inFull inFull' same⟩

end ElectionReadiness
