import ElectionReadiness.Proofs.Calendar.StampOrder
import ElectionReadiness.Proofs.Setup.Observation
import ElectionReadiness.Proofs.Setup.PassingChecks
import ElectionReadiness.TimeZone.Lookup

/-!
# Timings written in stamps

If all boundaries of a timing are written as stamps, the check of the timing compares texts: it
passes exactly if the zone is known and the eight texts are sorted by their bytes
(`Setup.timing_passes_iff_stamps_sorted`).  The check compares the times that are read, and these
are in the order of the stamps.
-/

set_option autoImplicit false

namespace ElectionReadiness

namespace Timing

/-- All boundaries are written as stamps, and the stamps are read. -/
structure IsStamped (timing : Timing) : Prop where
  shaped : ∀ boundary, CivilTime.IsStamp (timing.textAt boundary)
  accepted : ∀ boundary, (CivilTime.read? (timing.textAt boundary)).isSome = true

/-- It is enough to go through the texts of the boundaries. -/
theorem IsStamped.of_texts {timing : Timing}
    (texts : ∀ text ∈ Boundary.all.map timing.textAt,
      CivilTime.IsStamp text ∧ (CivilTime.read? text).isSome = true) : timing.IsStamped where
  shaped boundary := (texts _ (List.mem_map_of_mem boundary.mem_all)).1
  accepted boundary := (texts _ (List.mem_map_of_mem boundary.mem_all)).2

/-- A stamp is not empty. -/
theorem isStamp_ne_empty {text : String} (shaped : CivilTime.IsStamp text) : text ≠ "" := by
  rintro rfl
  exact absurd shaped (by decide)

/-- The boundaries of a stamped timing are read from their texts. -/
theorem IsStamped.exists_reads {timing : Timing} (stamped : timing.IsStamped) :
    ∃ civil : Boundary → CivilTime,
      (∀ boundary, CivilTime.read? (timing.textAt boundary) = some (civil boundary)) ∧
        ∀ boundary, timing.Reads Calendar.civil boundary (civil boundary) := by
  choose civil read using fun boundary => Option.isSome_iff_exists.mp (stamped.accepted boundary)
  refine ⟨civil, read, fun boundary => ?_⟩
  have filled := isStamp_ne_empty (stamped.shaped boundary)
  exact ⟨timing.textAt boundary, (textAt_eq_iff filled).mp rfl, filled, read boundary⟩

/-- A stamped timing passes exactly if its zone is known and its stamps are sorted. -/
theorem IsStamped.check_eq_ok_iff {timing : Timing} (stamped : timing.IsStamped) :
    timing.check Calendar.civil = .ok () ↔
      TimeZone.isName timing.timeZone = true ∧
        (Boundary.all.map timing.textAt).Pairwise fun one other =>
          Text.bytes one ≤ Text.bytes other := by
  obtain ⟨civil, read, reads⟩ := stamped.exists_reads
  have order (one other : Boundary) :
      Text.bytes (timing.textAt one) ≤ Text.bytes (timing.textAt other) ↔ civil one ≤ civil other :=
    CivilTime.bytes_le_iff_of_isStamp (stamped.shaped one) (stamped.shaped other) (read one)
      (read other)
  rw [Timing.check_eq_ok_iff, List.pairwise_map, ← Boundary.forall_lt_iff_pairwise]
  refine and_congr Iff.rfl ?_
  constructor
  · rintro ⟨instant, reads', sorted⟩ earlier later before
    have following := sorted earlier later before
    rw [(reads' earlier).unique (reads earlier), (reads' later).unique (reads later)] at following
    exact (order earlier later).mpr following
  · intro sorted
    exact ⟨civil, reads, fun earlier later before =>
      (order earlier later).mp (sorted earlier later before)⟩

end Timing

namespace Setup

/-- **The timing passes exactly if its stamps are sorted.**  If the eight boundaries are stamps
that are read, the check passes if and only if the zone is known and the texts, in the order of the
phases with every opening before its closing, do not descend in their bytes.  Any two stamps that
are read have the order of their bytes as times too. -/
theorem timing_passes_iff_stamps_sorted (setup : Setup) (requirements : Requirements)
    {timing : Timing} (present : setup.timing = some timing) (stamped : timing.IsStamped) :
    (setup.check requirements Calendar.civil .timing = .ok () ↔
      TimeZone.isName timing.timeZone = true ∧
        (Boundary.all.map timing.textAt).Pairwise fun one other =>
          Text.bytes one ≤ Text.bytes other) ∧
    ∀ (one other : String) (time later : CivilTime),
      CivilTime.IsStamp one → CivilTime.IsStamp other →
        CivilTime.read? one = some time → CivilTime.read? other = some later →
          (Text.bytes one ≤ Text.bytes other ↔ time ≤ later) := by
  constructor
  · rw [← stamped.check_eq_ok_iff]
    have checked :
        setup.check requirements Calendar.civil .timing = timing.check Calendar.civil := by
      rw [check, present]
      rfl
    rw [checked]
  · intro one other time later shaped shaped' read read'
    exact CivilTime.bytes_le_iff_of_isStamp shaped shaped' read read'

/-- A timing in stamps over the end of a century, with leap seconds. -/
def centuryTiming : Timing where
  timeZone := "Europe/London"
  parameterConfirmation := some ⟨some "1999-12-31T23:59:59", some "1999-12-31T23:59:60"⟩
  voterRegistration := some ⟨some "1999-12-31T23:59:60", some "2000-01-01T00:00:00"⟩
  voteCasting := some ⟨some "2000-02-29T08:00:00", some "2000-03-01T00:00:00"⟩
  tallyDecryption := some ⟨some "2099-12-31T23:59:60", some "2100-01-01T00:00:00"⟩

/-- The same timing with a registration that closes in the leap second before it opens. -/
def turnedTiming : Timing :=
  centuryTiming.setWindow .voterRegistration
    (some ⟨some "2000-01-01T00:00:00", some "1999-12-31T23:59:60"⟩)

/-- The first timing passes, as its stamps are sorted.  Those of the second are not, and it fails:
the leap second is before the midnight. -/
theorem century_passes_turned_fails :
    ({ timing := some centuryTiming } : Setup).check .usual Calendar.civil .timing = .ok () ∧
      ({ timing := some turnedTiming } : Setup).check .usual Calendar.civil .timing ≠ .ok () ∧
      ∃ leapSecond midnight, CivilTime.read? "1999-12-31T23:59:60" = some leapSecond ∧
        CivilTime.read? "2000-01-01T00:00:00" = some midnight ∧ leapSecond ≤ midnight := by
  have stamped : centuryTiming.IsStamped := .of_texts (by decide +kernel)
  have turned : turnedTiming.IsStamped := .of_texts (by decide +kernel)
  have known : TimeZone.isName centuryTiming.timeZone = true := by decide +kernel
  refine ⟨?_, fun passes => ?_, ?_⟩
  · exact (timing_passes_iff_stamps_sorted _ .usual rfl stamped).1.mpr ⟨known, by decide +kernel⟩
  · have sorted := ((timing_passes_iff_stamps_sorted _ .usual rfl turned).1.mp passes).2
    exact absurd sorted (by decide +kernel)
  · obtain ⟨leapSecond, read⟩ := Option.isSome_iff_exists.mp
      (by decide +kernel : (CivilTime.read? "1999-12-31T23:59:60").isSome = true)
    obtain ⟨midnight, read'⟩ := Option.isSome_iff_exists.mp
      (by decide +kernel : (CivilTime.read? "2000-01-01T00:00:00").isSome = true)
    have order := (timing_passes_iff_stamps_sorted { timing := some centuryTiming } .usual
      rfl stamped).2 _ _ _ _ (by decide) (by decide) read read'
    exact ⟨leapSecond, midnight, read, read', order.mp (by decide +kernel)⟩

end Setup

end ElectionReadiness
