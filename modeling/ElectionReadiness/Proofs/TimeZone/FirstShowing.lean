import ElectionReadiness.Proofs.TimeZone.CatalogOrder
import Mathlib.Order.Bounds.Basic

/-!
# The first time the clocks show a civil time

Resolving searches the spans of a zone by the readings of its wall clock.  What it finds can
be said without spans: it is the least universal time to which the offset in force at that
time adds up to the civil time, and there is nothing to find exactly if no universal time is
shown as the civil time (`resolves_to_first_showing`).  So a time shown twice means the
earlier instant, and a time that the clocks skip means none.

The offset in force is that of the last change so far, or the first offset before all
changes (`Timeline.InForce`).  The search goes span by span: an instant at which the clocks
show a reading lies in the first span or is found among the later ones
(`Timeline.mem_instantsShowing_cons`).  Near the ends of the calendar there is one more thing
to see.  The first instant may lie outside the years of times while a later one might not;
but the changes of all zones lie far from these ends (`Timeline.IsLate`), and where a later
span shows a reading the first showing cannot be more than some days before the changes.
-/

set_option autoImplicit false

namespace ElectionReadiness

/-! ## Shifts within the calendar -/

namespace CivilTime

/-- Times lie on the days of the calendar. -/
theorem wholeSeconds_mem_range (time : CivilTime) :
    86400 * Date.firstDay ≤ time.wholeSeconds ∧
      time.wholeSeconds < 86400 * (Date.lastDay + 1) := by
  have := time.day_ge
  have := time.day_le
  have := time.second_lt
  rw [wholeSeconds]
  omega

/-- A shift leads to a time if the calendar has the day. -/
theorem exists_shift_iff {time : CivilTime} {seconds : Int} :
    (∃ moved, time.shift seconds = some moved) ↔
      86400 * Date.firstDay ≤ time.wholeSeconds + seconds ∧
        time.wholeSeconds + seconds < 86400 * (Date.lastDay + 1) := by
  constructor
  · rintro ⟨moved, shifted⟩
    rw [← (shift_eq_some_iff.mp shifted).1]
    exact moved.wholeSeconds_mem_range
  · rintro ⟨late, early⟩
    have := time.nano_lt
    simp only [shift, ofParts?]
    rw [dif_pos (by omega)]
    exact ⟨_, rfl⟩

end CivilTime

namespace TimeZone

/-! ## The offset in force -/

namespace Timeline

/-- The offset at an instant: that of the last change so far, or the first if none has come. -/
inductive InForce (timeline : Timeline) (instant : Int) : Int → Prop
  | first (none_yet : ∀ change ∈ timeline.changes, instant < change.instant) :
      InForce timeline instant timeline.first
  | since {before after : List OffsetChange} {change : OffsetChange}
      (split : timeline.changes = before ++ change :: after) (begun : change.instant ≤ instant)
      (none_after : ∀ later ∈ after, instant < later.instant) :
      InForce timeline instant change.offset

theorem offsetFrom_of_none_yet {offset instant : Int} {changes : List OffsetChange}
    (none_yet : ∀ change ∈ changes, instant < change.instant) :
    offsetFrom offset changes instant = offset := by
  cases changes with
  | nil => rfl
  | cons change rest =>
      have later := none_yet change (List.mem_cons_self ..)
      rw [offsetFrom, if_neg (by omega)]

/-- Changes that have come are passed over. -/
theorem offsetFrom_append {offset instant : Int} {before after : List OffsetChange}
    {change : OffsetChange} (inOrder : InOrder (before ++ change :: after))
    (begun : change.instant ≤ instant) :
    offsetFrom offset (before ++ change :: after) instant =
      offsetFrom change.offset after instant := by
  induction before generalizing offset with
  | nil => rw [List.nil_append, offsetFrom, if_pos begun]
  | cons earlier before ih =>
      have parts := List.pairwise_cons.mp inOrder
      have order := parts.1 change (List.mem_append_right _ (List.mem_cons_self ..))
      rw [List.cons_append, offsetFrom, if_pos (Int.le_trans order begun)]
      exact ih parts.2

/-- An instant lies before all changes, or there is a last one so far. -/
theorem none_yet_or_splits {changes : List OffsetChange} (inOrder : InOrder changes)
    (instant : Int) :
    (∀ change ∈ changes, instant < change.instant) ∨
      ∃ before change after, changes = before ++ change :: after ∧ change.instant ≤ instant ∧
        ∀ later ∈ after, instant < later.instant := by
  induction changes with
  | nil => exact .inl fun change mem => absurd mem List.not_mem_nil
  | cons change rest ih =>
      have parts := List.pairwise_cons.mp inOrder
      rcases ih parts.2 with none_yet | ⟨before, last, after, split, begun, none_after⟩
      · by_cases begun : change.instant ≤ instant
        · exact .inr ⟨[], change, rest, rfl, begun, none_yet⟩
        · exact .inl (List.forall_mem_cons.mpr ⟨by omega, none_yet⟩)
      · exact .inr ⟨change :: before, last, after, by rw [split]; rfl, begun, none_after⟩

/-- Exactly one offset is in force at an instant. -/
theorem inForce_iff {timeline : Timeline} {instant offset : Int} :
    timeline.InForce instant offset ↔ timeline.offsetAt instant = offset := by
  have sound {offset : Int} (inForce : timeline.InForce instant offset) :
      timeline.offsetAt instant = offset := by
    cases inForce with
    | first none_yet => exact offsetFrom_of_none_yet none_yet
    | since split begun none_after =>
        have inOrder := timeline.inOrder
        rw [split] at inOrder
        rw [offsetAt, split, offsetFrom_append inOrder begun, offsetFrom_of_none_yet none_after]
  constructor
  · exact sound
  · rintro rfl
    rcases none_yet_or_splits timeline.inOrder instant with
      none_yet | ⟨before, change, after, split, begun, none_after⟩
    · have inForce : timeline.InForce instant timeline.first := .first none_yet
      rwa [sound inForce]
    · have inForce : timeline.InForce instant change.offset := .since split begun none_after
      rwa [sound inForce]

/-! ## The instants that show a reading -/

/-- The instants, from the one at which the first span begins, at which the wall clock shows
a reading. -/
def instantsShowing (begins : Option Int) (offset : Int) (changes : List OffsetChange)
    (reading : Int) : Set Int :=
  {instant | (∀ start ∈ begins, start ≤ instant) ∧
    instant + offsetFrom offset changes instant = reading}

theorem mem_instantsShowing_nil {begins : Option Int} {offset reading instant : Int} :
    instant ∈ instantsShowing begins offset [] reading ↔
      (∀ start ∈ begins, start ≤ instant) ∧ instant = reading - offset := by
  have shown : instant + offset = reading ↔ instant = reading - offset := by omega
  exact and_congr_right fun _ => shown

/-- A reading is shown in the first span, or in a later one. -/
theorem mem_instantsShowing_cons {begins : Option Int} {offset reading instant : Int}
    {change : OffsetChange} {rest : List OffsetChange}
    (after : ∀ start ∈ begins, start ≤ change.instant) :
    instant ∈ instantsShowing begins offset (change :: rest) reading ↔
      ((∀ start ∈ begins, start ≤ instant) ∧ instant < change.instant ∧
          instant = reading - offset) ∨
        instant ∈ instantsShowing (some change.instant) change.offset rest reading := by
  simp only [instantsShowing, Set.mem_ofPred_eq, offsetFrom, Option.mem_some_iff, forall_eq']
  by_cases begun : change.instant ≤ instant
  · have started : ∀ start ∈ begins, start ≤ instant := fun start mem =>
      Int.le_trans (after start mem) begun
    have late : ¬instant < change.instant := Int.not_lt.mpr begun
    simp only [begun, late, if_true, true_and, false_and, and_false, false_or]
    exact and_iff_right started
  · have shown : instant + offset = reading ↔ instant = reading - offset := by omega
    simp only [begun, Int.not_le.mp begun, if_false, shown, true_and, false_and, or_false]

/-! ## What the search finds -/

theorem offsetShowing_last (begins : Option Int) (offset reading : Int) :
    offsetShowing begins offset [] reading =
      if ∀ start ∈ begins, start ≤ reading - offset then some offset else none := by
  cases begins <;> simp [offsetShowing]

theorem offsetShowing_next (begins : Option Int) (offset : Int) (change : OffsetChange)
    (rest : List OffsetChange) (reading : Int) :
    offsetShowing begins offset (change :: rest) reading =
      if (∀ start ∈ begins, start ≤ reading - offset) ∧ reading - offset < change.instant then
        some offset
      else offsetShowing (some change.instant) change.offset rest reading := by
  cases begins <;> simp [offsetShowing]

/-- The search finds the offset at the least instant that shows a reading. -/
theorem isLeast_of_offsetShowing {begins : Option Int} {offset reading found : Int}
    {changes : List OffsetChange} (inOrder : InOrder changes)
    (after : ∀ start ∈ begins, ∀ change ∈ changes, start ≤ change.instant)
    (shows : offsetShowing begins offset changes reading = some found) :
    IsLeast (instantsShowing begins offset changes reading) (reading - found) := by
  induction changes generalizing begins offset with
  | nil =>
      rw [offsetShowing_last] at shows
      split at shows
      · next begun =>
        cases shows
        refine ⟨mem_instantsShowing_nil.mpr ⟨begun, rfl⟩, fun instant shown => ?_⟩
        rw [(mem_instantsShowing_nil.mp shown).2]
      · cases shows
  | cons change rest ih =>
      have parts := List.pairwise_cons.mp inOrder
      have here : ∀ start ∈ begins, start ≤ change.instant := fun start mem =>
        after start mem change (List.mem_cons_self ..)
      rw [offsetShowing_next] at shows
      split at shows
      · next within =>
        cases shows
        refine ⟨(mem_instantsShowing_cons here).mpr (.inl ⟨within.1, within.2, rfl⟩), ?_⟩
        intro instant shown
        rcases (mem_instantsShowing_cons here).mp shown with ⟨_, _, same⟩ | ⟨later, _⟩
        · rw [same]
        · have := later change.instant rfl
          omega
      · next without =>
        have least := ih parts.2 (fun start mem => Option.mem_some_iff.mp mem ▸ parts.1) shows
        refine ⟨(mem_instantsShowing_cons here).mpr (.inr least.1), fun instant shown => ?_⟩
        rcases (mem_instantsShowing_cons here).mp shown with ⟨begun, early, same⟩ | later
        · exact absurd ⟨same ▸ begun, same ▸ early⟩ without
        · exact least.2 later

/-- The search finds nothing only if no instant shows the reading. -/
theorem not_mem_of_offsetShowing {begins : Option Int} {offset reading instant : Int}
    {changes : List OffsetChange} (inOrder : InOrder changes)
    (after : ∀ start ∈ begins, ∀ change ∈ changes, start ≤ change.instant)
    (hidden : offsetShowing begins offset changes reading = none) :
    instant ∉ instantsShowing begins offset changes reading := by
  intro shown
  induction changes generalizing begins offset with
  | nil =>
      obtain ⟨begun, same⟩ := mem_instantsShowing_nil.mp shown
      rw [offsetShowing_last, if_pos (same ▸ begun)] at hidden
      cases hidden
  | cons change rest ih =>
      have parts := List.pairwise_cons.mp inOrder
      have here : ∀ start ∈ begins, start ≤ change.instant := fun start mem =>
        after start mem change (List.mem_cons_self ..)
      rw [offsetShowing_next] at hidden
      split at hidden
      · cases hidden
      · next without =>
        rcases (mem_instantsShowing_cons here).mp shown with ⟨begun, early, same⟩ | later
        · exact without ⟨same ▸ begun, same ▸ early⟩
        · exact ih parts.2 (fun start mem => Option.mem_some_iff.mp mem ▸ parts.1) hidden later

/-! ## Resolving finds the first showing -/

/-- The universal times at which the clocks show a civil time. -/
def showings (timeline : Timeline) (civil : CivilTime) : Set CivilTime :=
  {universal | ∃ offset, timeline.InForce universal.wholeSeconds offset ∧
    universal.shift offset = some civil}

/-- Universal times are shown as their local times. -/
theorem mem_showings_iff {timeline : Timeline} {civil universal : CivilTime} :
    universal ∈ timeline.showings civil ↔ timeline.localTime universal = some civil := by
  simp only [showings, Set.mem_ofPred_eq, inForce_iff, exists_eq_left', localTime]

theorem mem_showings_iff_seconds {timeline : Timeline} {civil universal : CivilTime} :
    universal ∈ timeline.showings civil ↔
      universal.wholeSeconds ∈
          instantsShowing none timeline.first timeline.changes civil.wholeSeconds ∧
        universal.nano = civil.nano := by
  rw [mem_showings_iff, localTime, CivilTime.shift_eq_some_iff, eq_comm,
    @eq_comm _ civil.nano]
  simp [instantsShowing, offsetAt]

/-- A resolved time is the first showing. -/
theorem isLeast_of_resolve {timeline : Timeline} {civil universal : CivilTime}
    (resolved : timeline.resolve civil = some universal) :
    IsLeast (timeline.showings civil) universal := by
  obtain ⟨offset, shows, seconds, nano⟩ := resolve_eq_some_iff.mp resolved
  have least := isLeast_of_offsetShowing timeline.inOrder (by simp) shows
  rw [← seconds] at least
  refine ⟨mem_showings_iff_seconds.mpr ⟨least.1, nano⟩, fun other shown => ?_⟩
  obtain ⟨shown, same⟩ := mem_showings_iff_seconds.mp shown
  have order := least.2 shown
  rw [CivilTime.le_iff_key_le, CivilTime.key, CivilTime.key, nano, same]
  omega

/-- The search looks at whole seconds only. -/
theorem resolve_of_same_second {timeline : Timeline} {civil other universal : CivilTime}
    (same : other.wholeSeconds = civil.wholeSeconds)
    (resolved : timeline.resolve civil = some universal) :
    ∃ found, timeline.resolve other = some found ∧
      found.wholeSeconds = universal.wholeSeconds ∧ found.nano = other.nano := by
  obtain ⟨offset, shows, seconds, _⟩ := resolve_eq_some_iff.mp resolved
  have range := universal.wholeSeconds_mem_range
  obtain ⟨found, shifted⟩ : ∃ found, other.shift (-offset) = some found := by
    rw [CivilTime.exists_shift_iff]
    omega
  obtain ⟨found_seconds, found_nano⟩ := CivilTime.shift_eq_some_iff.mp shifted
  refine ⟨found, ?_, by omega, found_nano⟩
  rw [resolve, same, shows, Option.bind_some, shifted]

/-- The changes of a timeline come after the year 1, and its offsets are some days at most. -/
structure IsLate (timeline : Timeline) : Prop where
  first_le : timeline.first ≤ 172800
  instant_ge : ∀ change ∈ timeline.changes, -62135683200 ≤ change.instant
  offset_ge : ∀ change ∈ timeline.changes, -172800 ≤ change.offset

/-- The first offset is in force at an instant, or a later one, and then it is after the year 1. -/
theorem IsLate.offsetAt {timeline : Timeline} (late : timeline.IsLate) (instant : Int) :
    timeline.offsetAt instant = timeline.first ∨
      -172800 ≤ timeline.offsetAt instant ∧ -62135683200 ≤ instant := by
  have inForce := inForce_iff.mpr (rfl : timeline.offsetAt instant = _)
  generalize timeline.offsetAt instant = offset at inForce
  cases inForce with
  | first none_yet => exact .inl rfl
  | @since before after change split begun none_after =>
      have mem : change ∈ timeline.changes :=
        split ▸ List.mem_append_right _ (List.mem_cons_self ..)
      exact .inr ⟨late.offset_ge change mem, Int.le_trans (late.instant_ge change mem) begun⟩

/-- A civil time that is shown at all is resolved. -/
theorem exists_resolve_of_mem_showings {timeline : Timeline} (late : timeline.IsLate)
    {civil universal : CivilTime} (shown : universal ∈ timeline.showings civil) :
    ∃ found, timeline.resolve civil = some found := by
  obtain ⟨shown, _⟩ := mem_showings_iff_seconds.mp shown
  cases shows : offsetShowing none timeline.first timeline.changes civil.wholeSeconds with
  | none => exact absurd shown (not_mem_of_offsetShowing timeline.inOrder (by simp) shows)
  | some offset =>
      have least := isLeast_of_offsetShowing timeline.inOrder (by simp) shows
      have order := least.2 shown
      have reading : universal.wholeSeconds + timeline.offsetAt universal.wholeSeconds =
        civil.wholeSeconds := shown.2
      have reading' : civil.wholeSeconds - offset +
        timeline.offsetAt (civil.wholeSeconds - offset) = civil.wholeSeconds := least.1.2
      simp only [resolve, shows, Option.bind_some]
      rw [CivilTime.exists_shift_iff]
      have range := universal.wholeSeconds_mem_range
      have first_le := late.first_le
      have early : Date.firstDay ≤ -1000000 := by decide
      -- If the first showing is under the first offset, so is the other one, or the other
      -- one is after the year 1, and then the first showing cannot be long before.
      rcases late.offsetAt (civil.wholeSeconds - offset) with before | ⟨_, after⟩
      · rcases late.offsetAt universal.wholeSeconds with before' | ⟨_, after'⟩
        · omega
        · omega
      · omega

end Timeline

/-! ## The zones of the catalog -/

namespace Almanac

theorem first_le {history : ZoneHistory} (modest : ModestHistory history) :
    first history ≤ 345600 := by
  obtain ⟨past, present⟩ := history
  cases past with
  | nil =>
      have := offset_le modest.present_modest
      have := initial_le modest.present_modest
      simp only [first] at *
      omega
  | cons ended rest =>
      have endedModest := (modest.past_modest ended (List.mem_cons_self ..)).1
      have := offset_le endedModest
      have := initial_le endedModest
      simp only [first]
      omega

/-- What can be reckoned in natural numbers is late. -/
theorem isLate_of_isReckonable {history : ZoneHistory} (reckonable : isReckonable history = true) :
    history.timeline.IsLate := by
  have modest : ModestHistory history := by
    rw [isReckonable, pick_eq_and, Bool.and_eq_true] at reckonable
    exact modestHistory_of reckonable.1
  have of_mark : ∀ change ∈ history.timeline.changes,
      ∃ mark : Mark, mark.offsetChange = change := by
    rw [← settled_offsetChange reckonable]
    intro change mem
    obtain ⟨mark, _, rfl⟩ := List.mem_map.mp mem
    exact ⟨mark, rfl⟩
  refine ⟨?_, ?_, ?_⟩
  · have := first_le modest
    rw [first_offset reckonable]
    omega
  · intro change mem
    obtain ⟨mark, rfl⟩ := of_mark change mem
    simp only [Mark.offsetChange]
    omega
  · intro change mem
    obtain ⟨mark, rfl⟩ := of_mark change mem
    simp only [Mark.offsetChange]
    omega

theorem isReckonable_of_mem_catalog {zone : String} {history : ZoneHistory}
    (mem : (zone, history) ∈ catalog) : isReckonable history = true := by
  have orderly := every_iff.mp catalog_isOrderly _ mem
  rw [isOrderly, pick_eq_ite] at orderly
  split at orderly
  · rw [isLikeDublin, pick_eq_and, Bool.and_eq_true] at orderly
    exact orderly.1
  · rw [isOrdered, pick_eq_and, Bool.and_eq_true] at orderly
    exact orderly.1

end Almanac

theorem isLate_of_history? {zone : String} {history : ZoneHistory}
    (known : history? zone = some history) : history.timeline.IsLate :=
  Almanac.isLate_of_isReckonable
    (Almanac.isReckonable_of_mem_catalog (mem_catalog_of_history? known))

/-- The names of zones are those that have a history. -/
theorem isName_eq_isSome_history? (zone : String) : isName zone = (history? zone).isSome := by
  rw [Bool.eq_iff_iff, isName, names, List.contains_iff_mem, history?, List.lookup_isSome_iff]
  simp

/-- The universal times at which the clocks of a zone show a civil time. -/
def showings (zone : String) (civil : CivilTime) : Set CivilTime :=
  {universal | ∃ history, history? zone = some history ∧
    universal ∈ history.timeline.showings civil}

theorem showings_eq_of_history? {zone : String} {history : ZoneHistory}
    (known : history? zone = some history) (civil : CivilTime) :
    showings zone civil = history.timeline.showings civil := by
  ext universal
  simp [showings, known]

theorem resolve_eq_of_history? {zone : String} {history : ZoneHistory}
    (known : history? zone = some history) (civil : CivilTime) :
    resolve zone civil = history.timeline.resolve civil := by
  rw [resolve, known, Option.bind_some]

/-! ## Resolving in a zone -/

/-- **Resolving finds the first universal time that is shown as a civil time.**  In an unknown
zone there is none.  In a known one it is the least time that, with the offset in force then,
comes to the civil time, and none if there is no such time within the years of times.  So the
clocks show the civil time again at what is found, which has its part of a second and, as
only whole seconds are looked at, the same second as for any other part. -/
theorem resolves_to_first_showing (zone : String) (civil : CivilTime) :
    (isName zone = false → resolve zone civil = none) ∧
      (∀ universal, resolve zone civil = some universal ↔
        IsLeast (showings zone civil) universal) ∧
      (resolve zone civil = none ↔ showings zone civil = ∅) ∧
      ∀ universal, resolve zone civil = some universal →
        (∃ history, history? zone = some history ∧
          history.timeline.localTime universal = some civil) ∧
        universal.nano = civil.nano ∧
        ∀ other, other.wholeSeconds = civil.wholeSeconds →
          ∃ found, resolve zone other = some found ∧
            found.wholeSeconds = universal.wholeSeconds := by
  rw [isName_eq_isSome_history?]
  cases known : history? zone with
  | none =>
      have unresolved : resolve zone civil = none := by rw [resolve, known, Option.bind_none]
      have hidden : showings zone civil = ∅ := by
        ext universal
        simp [showings, known]
      rw [unresolved, hidden]
      refine ⟨fun _ => rfl, ?_, by simp, by simp⟩
      intro universal
      simp [IsLeast]
  | some history =>
      rw [showings_eq_of_history? known, resolve_eq_of_history? known]
      have complete {universal : CivilTime}
          (shown : universal ∈ history.timeline.showings civil) :
          ∃ found, history.timeline.resolve civil = some found :=
        Timeline.exists_resolve_of_mem_showings (isLate_of_history? known) shown
      refine ⟨by simp, ?_, ?_, ?_⟩
      · intro universal
        refine ⟨Timeline.isLeast_of_resolve, fun least => ?_⟩
        obtain ⟨found, resolved⟩ := complete least.1
        rw [resolved, (Timeline.isLeast_of_resolve resolved).unique least]
      · constructor
        · intro unresolved
          refine Set.eq_empty_of_forall_notMem fun universal shown => ?_
          obtain ⟨found, resolved⟩ := complete shown
          rw [unresolved] at resolved
          cases resolved
        · intro hidden
          cases resolved : history.timeline.resolve civil with
          | none => rfl
          | some universal =>
              have shown := (Timeline.isLeast_of_resolve resolved).1
              rw [hidden] at shown
              exact absurd shown (Set.notMem_empty _)
      · intro universal resolved
        have shown := (Timeline.isLeast_of_resolve resolved).1
        refine ⟨⟨history, rfl, Timeline.mem_showings_iff.mp shown⟩,
          (Timeline.mem_showings_iff_seconds.mp shown).2, fun other same => ?_⟩
        obtain ⟨found, found_eq, seconds, _⟩ := Timeline.resolve_of_same_second same resolved
        exact ⟨found, (resolve_eq_of_history? known other).trans found_eq, seconds⟩

/-- Half a second past 23:50:00 on 30 June 1905, before the clocks of Lagos went back by 13
minutes and 35 seconds. -/
def repeatedTime : CivilTime :=
  ⟨-23561, 85800, 500000000, by decide, by decide, by decide, by decide⟩

/-- 00:05:00 on 1 July 1908, when they went forward again at midnight. -/
def skippedTime : CivilTime := ⟨-22464, 300, 0, by decide, by decide, by decide, by decide⟩

/-- The first second of all years, which is before them in universal time east of Greenwich. -/
def firstTime : CivilTime :=
  ⟨Date.firstDay, 0, 0, by decide, by decide, by decide, by decide⟩

/-- The first of two showings is taken; a skipped time, the start of all years and a place that
is no zone have none. -/
theorem lagos_takes_first_of_two :
    (∃ first second, resolve "Africa/Lagos" repeatedTime = some first ∧ first < second ∧
      second ∈ showings "Africa/Lagos" repeatedTime ∧
      IsLeast (showings "Africa/Lagos" repeatedTime) first) ∧
    showings "Africa/Lagos" skippedTime = ∅ ∧
    showings "Africa/Lagos" firstTime = ∅ ∧
    isName "Lagos" = false ∧ resolve "Lagos" repeatedTime = none := by
  obtain ⟨history, known⟩ : ∃ history, history? "Africa/Lagos" = some history :=
    Option.isSome_iff_exists.mp (by decide +kernel)
  have unnamed : isName "Lagos" = false := by decide +kernel
  have resolved : resolve "Africa/Lagos" repeatedTime =
      some ⟨-23561, 84985, 500000000, by decide, by decide, by decide, by decide⟩ := by
    decide +kernel
  refine ⟨⟨_, repeatedTime, resolved, by decide +kernel, ?_, ?_⟩, ?_, ?_, unnamed, ?_⟩
  · refine ⟨history, known, Timeline.mem_showings_iff.mpr ?_⟩
    have shown : (history? "Africa/Lagos").map (·.timeline.localTime repeatedTime) =
      some (some repeatedTime) := by decide +kernel
    rw [known] at shown
    exact Option.some.inj shown
  · exact ((resolves_to_first_showing _ _).2.1 _).mp resolved
  · exact (resolves_to_first_showing _ _).2.2.1.mp (by decide +kernel)
  · exact (resolves_to_first_showing _ _).2.2.1.mp (by decide +kernel)
  · exact (resolves_to_first_showing _ _).1 unnamed

end TimeZone

end ElectionReadiness
