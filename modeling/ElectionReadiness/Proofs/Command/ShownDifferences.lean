import ElectionReadiness.Proofs.Command.Reference
import ElectionReadiness.Proofs.Differences.Faithful
import ElectionReadiness.Proofs.Differences.OneLine
import ElectionReadiness.Proofs.Json.PrettyLines

/-!
# The differences from a reference

When a reference stands for another value than a report, the differences between the texts of the
two are printed.  Both texts can be read off what is printed, the reference in the lines without
colour and in red, the report in those without colour and in green; but the lines without colour,
being collected along several paths through the texts, may stand there more often than in the
texts (`differences_show_both_texts`).  So it is for a reference that is the report on a new
election but for the state of one stage (`untimed_reference_is_repeated`): the differences show
more common lines than the reference has lines.
-/

set_option autoImplicit false

namespace ElectionReadiness

open Json Command Differences

/-! ## What is printed -/

namespace Report

/-- What is printed when a report is compared with the reference at a path in a folder. -/
def printedAgainst (report : Report) (folder : Folder) (path : String) : String :=
  (Session.perform (checkReference Session.environment path report.text) folder).2.printed

theorem printedAgainst_eq (report : Report) (folder : Folder) (path : String) :
    report.printedAgainst folder path = (folder.compare path report.text).2 := by
  obtain ⟨notices, ran⟩ := Session.outcome_checkReference path report.text { folder := folder }
  rw [printedAgainst, Session.perform_eq_outcome, ran]
  exact String.empty_append

/-- A reference that stands for another value is answered with the differences from it. -/
theorem printedAgainst_of_ne (report : Report) {folder : Folder} {path text : String}
    {reference : Value} (holds : folder.readText? path = some text)
    (stands : reference.IsTextOf text) (differs : reference ≠ report.value) :
    report.printedAgainst folder path = Differences.text reference.pretty report.text := by
  have unlike : reference.pretty ≠ report.text :=
    mt (report.pretty_eq_text_iff reference).mp differs
  simp only [printedAgainst_eq, Folder.compare, holds, Value.parse?_eq_some_iff.mpr stands,
    unlike, if_false]

end Report

theorem linesOf_pretty (value : Value) :
    linesOf value.pretty = Text.split '\n' (value.write 0) := by
  rw [linesOf, Value.pretty, String.toList_ofList]

/-! ## Reports for references -/

/-- A folder where a report stands for a reference. -/
def referenceFolder (report : Report) : Folder :=
  ({} : Folder).put ["reference.json"] (.text report.text)

theorem readText?_referenceFolder (report : Report) :
    (referenceFolder report).readText? "reference.json" = some report.text := by
  have vacant : Folder.locate {} "reference.json" = .vacant ["reference.json"] := by decide +kernel
  have writes : Folder.write? {} "reference.json" (.text report.text) =
      some (referenceFolder report) :=
    Folder.write?_eq_some_iff.mpr ⟨["reference.json"], .inr vacant, rfl⟩
  exact (Folder.readText?_of_write? writes).2

/-- The report on a new election. -/
def newReport : Report := Setup.report {} .usual .automatic

/-- The report on a new election, with its registrar said to be complete. -/
def registeredReport : Report :=
  { newReport with
    stages := newReport.stages.map fun status =>
      if status.stage = .registrar then { status with isDone := true } else status }

/-- The report on a new election, without the state of its timing. -/
def untimedReport : Report :=
  { newReport with stages := newReport.stages.filter fun status => status.stage ≠ .timing }

theorem differInOneLine_registered :
    DifferInOneLine (linesOf registeredReport.value.pretty) (linesOf newReport.text) := by
  let lines (report : Report) : List Line := Text.split '\n' (report.value.write 0)
  have before : (lines newReport).take 29 = (lines registeredReport).take 29 := by decide +kernel
  have after : (lines newReport).drop 30 = (lines registeredReport).drop 30 := by decide +kernel
  have parts (report : Report) : lines report =
      (lines report).take 29 ++ ((lines report)[29]?.toList ++ (lines report).drop 30) := by
    rw [← List.drop_eq_getElem?_toList_append, List.take_append_drop]
  rw [Report.text, linesOf_pretty, linesOf_pretty]
  refine ⟨(lines registeredReport).take 29, (lines registeredReport).drop 30,
    (lines registeredReport)[29]?, (lines newReport)[29]?, parts registeredReport, ?_⟩
  rw [← before, ← after]
  exact parts newReport

/-! ## The differences -/

/-- **The differences from a reference show both texts, and then perhaps common lines again.**
After a reference that stands for another value than the report on a setup, the lines printed
without colour and in red are those of the reference in their order, followed at most by some of
the last lines without colour, and likewise for the report in green.  The lines without colour are
those that the search for common lines has found, runs of lines that stand together in both
texts.  The differences show the two texts and nothing else exactly if the lines without colour
are common to both in their order, and that is so whenever the texts differ in one line. -/
theorem differences_show_both_texts (setup : Setup) (requirements : Requirements)
    (tab : TabChoice) {folder : Folder} {path text : String} {reference : Value}
    (holds : folder.readText? path = some text) (stands : reference.IsTextOf text)
    (differs : reference ≠ (setup.report requirements tab).value) :
    let report := setup.report requirements tab
    let printed := report.printedAgainst folder path
    let first := linesOf reference.pretty
    let second := linesOf report.text
    let common := keptLines [] printed
    (∃ again, again <:+ common ∧ keptLines [.red] printed = first ++ again) ∧
    (∃ again, again <:+ common ∧ keptLines [.green] printed = second ++ again) ∧
    common = Text.fullLines (commonText first second) ∧
    (∃ runs : List (List Line), common = runs.flatten ∧ ∀ run ∈ runs, IsRun first second run) ∧
    (AreFaithful reference.pretty report.text printed ↔
      common.Sublist first ∧ common.Sublist second) ∧
    (DifferInOneLine first second → AreFaithful reference.pretty report.text printed) := by
  intro report printed first second common
  have firstLined := reference.isLined_pretty
  have secondLined : Text.IsLined report.text.toList := report.value.isLined_pretty
  have shown : printed = Differences.text reference.pretty report.text :=
    report.printedAgainst_of_ne holds stands differs
  have plain : common = commonLines first second := by
    rw [← keptLines_plain firstLined secondLined, ← shown]
  have faithful := areFaithful_iff firstLined secondLined
  obtain ⟨red, redAgain, redKept, _⟩ := exists_again_red firstLined secondLined
  obtain ⟨green, greenAgain, greenKept, _⟩ := exists_again_green firstLined secondLined
  rw [← shown] at faithful redAgain redKept greenAgain greenKept
  refine ⟨⟨red, redAgain, redKept⟩, ⟨green, greenAgain, greenKept⟩, ?_, ?_, faithful, ?_⟩
  · rw [plain, fullLines_commonText firstLined]
  · rw [plain]
    exact exists_runs first second
  · intro inOneLine
    have unlike : first ≠ second := by
      rw [ne_eq, linesOf_inj, report.pretty_eq_text_iff]
      exact differs
    have found := commonLines_sublist_of_differInOneLine unlike inOneLine
    rw [← plain] at found
    exact faithful.mpr found

/-- A registrar that is not complete yet is shown in red and in green. -/
theorem registered_reference_is_shown :
    (referenceFolder registeredReport).readText? "reference.json" = some registeredReport.text ∧
    registeredReport.value.IsTextOf registeredReport.text ∧
    registeredReport.value ≠ newReport.value ∧
    AreFaithful registeredReport.value.pretty newReport.text
      (newReport.printedAgainst (referenceFolder registeredReport) "reference.json") := by
  have holds := readText?_referenceFolder registeredReport
  have stands := registeredReport.isTextOf_text
  have unlike : registeredReport.value.write 0 ≠ newReport.value.write 0 := by decide +kernel
  have differs : registeredReport.value ≠ newReport.value := fun same => unlike (by rw [same])
  obtain ⟨_, _, _, _, _, faithful⟩ :=
    differences_show_both_texts {} .usual .automatic holds stands differs
  exact ⟨holds, stands, differs, faithful differInOneLine_registered⟩

/-- **A reference may be repeated.**  The differences between the report on a new election and
itself without the state of one stage show 38 lines without colour, but this reference has only
35 lines: not all of them are common to it in their order, and so it does not stand there alone. -/
theorem untimed_reference_is_repeated :
    let reference := untimedReport.value
    let folder := referenceFolder untimedReport
    let printed := newReport.printedAgainst folder "reference.json"
    (folder.readText? "reference.json" = some untimedReport.text ∧
      reference.IsTextOf untimedReport.text ∧ reference ≠ newReport.value ∧
      newReport.checkedAgainst folder "reference.json" = .error .difference) ∧
    (linesOf reference.pretty).length = 35 ∧ (keptLines [] printed).length = 38 ∧
    ¬(keptLines [] printed).Sublist (linesOf reference.pretty) ∧
    keptLines [.red] printed ≠ linesOf reference.pretty ∧
    ¬AreFaithful reference.pretty newReport.text printed := by
  intro reference folder printed
  have holds := readText?_referenceFolder untimedReport
  have stands := untimedReport.isTextOf_text
  have unlike : reference.write 0 ≠ newReport.value.write 0 := by decide +kernel
  have differs : reference ≠ newReport.value := fun same => unlike (by rw [same])
  have rejected : newReport.checkedAgainst folder "reference.json" = .error .difference :=
    (newReport.checkedAgainst_iff folder "reference.json").2.1.mpr
      ⟨untimedReport.text, reference, holds, stands, differs⟩
  have lined := reference.isLined_pretty
  have newLined : Text.IsLined newReport.text.toList := newReport.value.isLined_pretty
  have shown : printed = Differences.text reference.pretty newReport.text :=
    newReport.printedAgainst_of_ne holds stands differs
  have fewer : (linesOf reference.pretty).length = 35 := by
    rw [linesOf_pretty]
    decide +kernel
  have more : (keptLines [] printed).length = 38 := by
    rw [shown, keptLines_plain lined newLined, Report.text, linesOf_pretty, linesOf_pretty]
    decide +kernel
  have notCommon : ¬(keptLines [] printed).Sublist (linesOf reference.pretty) := by
    intro common
    have atMost := common.length_le
    omega
  obtain ⟨again, _, redKept, nothing⟩ := exists_again_red lined newLined
  rw [← shown] at redKept nothing
  have repeated : keptLines [.red] printed ≠ linesOf reference.pretty := by
    intro alone
    rw [redKept, List.append_right_eq_self] at alone
    exact notCommon (nothing.mp alone)
  exact ⟨⟨holds, stands, differs, rejected⟩, fewer, more, notCommon, repeated,
    fun faithful => repeated faithful.first⟩

end ElectionReadiness
