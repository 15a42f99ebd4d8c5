import ElectionReadiness.Proofs.Text.ByteOrder
import ElectionReadiness.Proofs.TimeZone.FirstShowing
import ElectionReadiness.Setup.Assessment
import Mathlib.Data.List.Chain
import Mathlib.Data.List.Sort

/-!
# The names of zones that are offered

The names that begin with a text are offered in the order of their bytes, each once, and they are
the known ones that begin so: what is offered for the empty text is what the check of a timing
accepts (`TimeZone.offers_known_names`).

That the catalog keeps its names in order is worked out once (`TimeZone.names_ascend`).  All else
follows from it.  A list in strictly ascending order is the only one of its entries, so to sort the
names that begin with a text, from whatever order they are listed in, gives the names that are
offered (`TimeZone.sorted_eq_of_perm`).
-/

set_option autoImplicit false

namespace ElectionReadiness

/-! ## The check of a timing and its zone -/

namespace Timing

variable {Instant : Type} [LT Instant] [DecidableLT Instant]

/-- A window does not fall short of a zone. -/
theorem checkWindow_ne_unknownTimeZone (timing : Timing) (calendar : Calendar Instant)
    (floor : Option Instant) (phase : Phase) (zone : String) :
    timing.checkWindow calendar floor phase ≠ .error (.unknownTimeZone zone) := by
  unfold checkWindow
  intro unknown
  split at unknown
  · cases unknown
  · split at unknown
    · cases unknown
    · split at unknown
      · cases unknown
      · split at unknown
        · cases unknown
        · split at unknown <;> cases unknown

theorem checkWindows_ne_unknownTimeZone (timing : Timing) (calendar : Calendar Instant)
    (floor : Option Instant) (phases : List Phase) (zone : String) :
    timing.checkWindows calendar floor phases ≠ .error (.unknownTimeZone zone) := by
  induction phases generalizing floor with
  | nil => simp [checkWindows]
  | cons phase later ih =>
      rw [checkWindows]
      split
      · next shortfall stopped =>
        rintro ⟨⟩
        exact timing.checkWindow_ne_unknownTimeZone calendar floor phase zone stopped
      · exact ih _

/-- A timing falls short of its zone exactly if the calendar does not know it. -/
theorem check_eq_unknownTimeZone_iff {timing : Timing} {calendar : Calendar Instant}
    {zone : String} :
    timing.check calendar = .error (.unknownTimeZone zone) ↔
      timing.timeZone = zone ∧ calendar.isTimeZone zone = false := by
  unfold check
  split
  · next known =>
    refine iff_of_false (timing.checkWindows_ne_unknownTimeZone calendar none _ zone) ?_
    rintro ⟨rfl, unknown⟩
    rw [known] at unknown
    cases unknown
  · next unknown =>
    rw [Except.error.injEq, Shortfall.unknownTimeZone.injEq]
    refine ⟨?_, And.left⟩
    rintro rfl
    exact ⟨rfl, Bool.eq_false_iff.mpr unknown⟩

end Timing

namespace TimeZone

/-! ## Names in order -/

/-- A name begins with a text. -/
def Begins (start name : String) : Prop := start.toList <+: name.toList

instance (start name : String) : Decidable (Begins start name) :=
  inferInstanceAs (Decidable (_ <+: _))

/-- The names of zones ascend in the order of their bytes. -/
theorem names_ascend : names.Pairwise fun one other => Text.bytes one < Text.bytes other := by
  have chain : names.IsChain fun one other => Text.bytes one < Text.bytes other := by
    decide +kernel
  have ascend : names.IsChain (· < ·) := chain.imp fun _ _ => Text.bytes_lt_iff.mp
  exact ascend.pairwise.imp Text.bytes_lt_iff.mpr

/-- The names that begin with a text, for any list of names. -/
def beginning (start : String) (listed : List String) : List String :=
  listed.filter fun name => Begins start name

theorem namesFrom_eq_beginning (start : String) : namesFrom start = beginning start names := by
  refine List.filter_congr fun name _ => ?_
  rw [Bool.eq_iff_iff, List.isPrefixOf_iff_prefix, decide_eq_true_eq]
  rfl

/-- What begins with a longer text begins with a shorter. -/
theorem Begins.of_append {start more name : String} (longer : Begins (start ++ more) name) :
    Begins start name := by
  unfold Begins at longer
  rw [String.toList_append] at longer
  exact (List.prefix_append ..).trans longer

theorem beginning_append (start more : String) (listed : List String) :
    beginning (start ++ more) listed = beginning (start ++ more) (beginning start listed) := by
  rw [beginning, beginning, beginning, List.filter_filter]
  refine List.filter_congr fun name _ => ?_
  rw [Bool.eq_iff_iff, Bool.and_eq_true, decide_eq_true_eq, decide_eq_true_eq]
  exact ⟨fun longer => ⟨longer, longer.of_append⟩, And.left⟩

/-- Names in the order of their bytes. -/
def sorted (listed : List String) : List String :=
  listed.mergeSort fun one other => Text.bytes one ≤ Text.bytes other

/-- Sorting finds the only ascending list of its names. -/
theorem sorted_eq_of_perm {listed ascending : List String} (same : listed.Perm ascending)
    (ascend : ascending.Pairwise fun one other => Text.bytes one < Text.bytes other) :
    sorted listed = ascending := by
  have inOrder : (sorted listed).Pairwise (· ≤ ·) := by
    simp only [sorted, Text.bytes_le_iff]
    exact List.pairwise_mergeSort' (· ≤ ·) listed
  have ascending_le : ascending.Pairwise (· ≤ ·) :=
    ascend.imp fun less => le_of_lt (Text.bytes_lt_iff.mp less)
  exact ((List.mergeSort_perm listed _).trans same).eq_of_pairwise' inOrder ascending_le

/-! ## The names that are offered -/

/-- **The names that are offered are the known ones that begin so.**  They ascend in the order of
their bytes, and a text is among them exactly if it is known as a name, has a history and begins
with the text that is asked for.  The check of a timing falls short of its zone exactly if the
zone is not offered for the empty text.  A longer text leaves some of the names that are offered
for a shorter one.  In whatever order all names are listed, to sort those that begin so gives what
is offered. -/
theorem offers_known_names (start : String) :
    ((namesFrom start).Pairwise fun one other => Text.bytes one < Text.bytes other) ∧
    (∀ name, (name ∈ namesFrom start ↔ isName name = true ∧ Begins start name) ∧
      isName name = (history? name).isSome) ∧
    (∀ (timing : Timing) (zone : String),
      timing.check Calendar.civil = .error (.unknownTimeZone zone) ↔
        timing.timeZone = zone ∧ zone ∉ namesFrom "") ∧
    (∀ more, namesFrom (start ++ more) = beginning (start ++ more) (namesFrom start)) ∧
    ∀ listed : List String,
      listed.Perm names → sorted (beginning start listed) = namesFrom start := by
  have mem_iff (start name : String) :
      name ∈ namesFrom start ↔ isName name = true ∧ Begins start name := by
    rw [namesFrom_eq_beginning, beginning, List.mem_filter, decide_eq_true_eq, isName,
      List.contains_iff_mem]
  have ascend : (namesFrom start).Pairwise fun one other => Text.bytes one < Text.bytes other := by
    rw [namesFrom_eq_beginning]
    exact names_ascend.filter _
  refine ⟨ascend, fun name => ⟨mem_iff start name, isName_eq_isSome_history? name⟩, ?_, ?_, ?_⟩
  · intro timing zone
    rw [Timing.check_eq_unknownTimeZone_iff, mem_iff]
    simp [Begins, Calendar.civil]
  · intro more
    rw [namesFrom_eq_beginning, namesFrom_eq_beginning]
    exact beginning_append start more names
  · intro listed same
    refine sorted_eq_of_perm ?_ ascend
    rw [namesFrom_eq_beginning]
    exact same.filter _

/-- A name is offered for its own beginning, however the names are listed.  The same name in other
letters is none. -/
theorem wake_is_offered :
    "Pacific/Wake" ∈ namesFrom "Pacific/W" ∧
      sorted (beginning "Pacific/W" names.reverse) = namesFrom "Pacific/W" ∧
      ({ timeZone := "Pacific/wake" } : Timing).check Calendar.civil =
        .error (.unknownTimeZone "Pacific/wake") := by
  obtain ⟨_, offered, refused, _, fromAnyOrder⟩ := offers_known_names "Pacific/W"
  have known : isName "Pacific/Wake" = true := by decide +kernel
  have unknown : "Pacific/wake" ∉ namesFrom "" := by
    intro absent
    have accepted := ((offers_known_names "").2.1 "Pacific/wake").1.mp absent
    exact absurd accepted.1 (by decide +kernel)
  refine ⟨(offered _).1.mpr ⟨known, by decide⟩, fromAnyOrder _ names.reverse_perm, ?_⟩
  exact (refused _ _).mpr ⟨rfl, unknown⟩

end TimeZone

end ElectionReadiness
