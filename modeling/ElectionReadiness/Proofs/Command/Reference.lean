import ElectionReadiness.Proofs.Command.Course
import ElectionReadiness.Proofs.Command.WrittenFile
import ElectionReadiness.Proofs.Json.PrettyText

/-!
# Comparing a report with a reference

A report is compared with a reference as texts, but what is decided is whether the reference
stands for the same value (`reference_decides_equality`).  For a report is a plain value
(`Report.isPlain_value`): no other value has its text, and its own text stands for it.
-/

set_option autoImplicit false

namespace ElectionReadiness

open Json Json.Value Command

/-! ## Reports are plain -/

theorem isPlain_ofOption {α : Type} {write : α → Value} {depth : Nat}
    (plain : ∀ content, (write content).IsPlain depth) (content : Option α) :
    (Value.ofOption write content).IsPlain depth := by
  cases content with
  | none => exact .null
  | some content => exact plain content

theorem isPlain_ofList {α : Type} {write : α → Value} {depth : Nat}
    (plain : ∀ content, (write content).IsPlain depth) (contents : List α) :
    (Value.ofList write contents).IsPlain (depth + 1) := by
  refine .array ?_
  intro item mem
  obtain ⟨content, _, rfl⟩ := List.mem_map.mp mem
  exact plain content

theorem inNameOrder_of_names {α : Type} {members : List (String × α)} {names : List String}
    (named : members.map Prod.fst = names) (inOrder : names.Pairwise (· < ·)) :
    InNameOrder members := by
  rw [InNameOrder, named]
  exact inOrder

theorem isPlain_stageStatus (status : StageStatus) : status.value.IsPlain 1 := by
  have inOrder : ["done", "label", "stage"].Pairwise (· < ·) := by decide +kernel
  refine .object (inNameOrder_of_names rfl inOrder) ?_
  simp only [List.forall_mem_cons, List.not_mem_nil, false_imp_iff, implies_true, and_true]
  exact ⟨.bool _, .string _, .string _⟩

theorem isPlain_scheduledPhase (scheduled : ScheduledPhase) : scheduled.value.IsPlain 1 := by
  have inOrder : ["closes", "opens", "phase"].Pairwise (· < ·) := by decide +kernel
  refine .object (inNameOrder_of_names rfl inOrder) ?_
  simp only [List.forall_mem_cons, List.not_mem_nil, false_imp_iff, implies_true, and_true]
  exact ⟨isPlain_ofOption (fun _ => .string _) _, isPlain_ofOption (fun _ => .string _) _,
    .string _⟩

namespace Report

theorem isPlain_scheduleMember (report : Report) :
    ∀ member ∈ report.scheduleMember, member.2.IsPlain 2 := by
  rw [scheduleMember]
  cases report.schedule with
  | none => exact fun member => nofun
  | some schedule =>
      exact List.forall_mem_singleton.mpr (isPlain_ofList isPlain_scheduledPhase schedule)

/-- **A report is a plain value.** -/
theorem isPlain_value (report : Report) : report.value.IsPlain 3 := by
  have withSchedule : ["activeStage", "completed", "election", "ready", "reason", "schedule",
      "selectedTab", "stages"].Pairwise (· < ·) := by decide +kernel
  have fewer : ["activeStage", "completed", "election", "ready", "reason", "selectedTab",
      "stages"].Sublist ["activeStage", "completed", "election", "ready", "reason", "schedule",
      "selectedTab", "stages"] := by decide
  refine .object ?_ ?_
  · unfold scheduleMember
    cases report.schedule with
    | some schedule => exact inNameOrder_of_names rfl withSchedule
    | none => exact inNameOrder_of_names rfl (withSchedule.sublist fewer)
  · simp only [List.forall_mem_append, List.forall_mem_cons, List.not_mem_nil, false_imp_iff,
      implies_true, and_true]
    exact ⟨⟨⟨.string _, isPlain_ofList (fun _ => .string _) _, .string _, .bool _,
        isPlain_ofOption (fun _ => .string _) _⟩, report.isPlain_scheduleMember⟩,
      .string _, isPlain_ofList isPlain_stageStatus _⟩

theorem isTextOf_text (report : Report) : report.value.IsTextOf report.text :=
  report.isPlain_value.isTextOf_pretty (by decide)

/-- A value has the text of a report only if it is the report. -/
theorem pretty_eq_text_iff (report : Report) (value : Value) :
    value.pretty = report.text ↔ value = report.value :=
  ⟨report.isPlain_value.eq_of_pretty, fun same => congrArg Value.pretty same⟩

/-! ## The comparison -/

/-- What comes of comparing a report with the reference at a path in a folder. -/
def checkedAgainst (report : Report) (folder : Folder) (path : String) : Except Failure Unit :=
  (Session.perform (checkReference Session.environment path report.text) folder).1

theorem checkedAgainst_eq (report : Report) (folder : Folder) (path : String) :
    report.checkedAgainst folder path = (folder.compare path report.text).1 := by
  obtain ⟨notices, ran⟩ := Session.outcome_checkReference path report.text { folder := folder }
  rw [checkedAgainst, Session.perform_eq_outcome, ran]

/-- What the file at a path stands for decides how a report compares with it. -/
theorem checkedAgainst_iff (report : Report) (folder : Folder) (path : String) :
    (report.checkedAgainst folder path = .ok () ↔
      ∃ text, folder.readText? path = some text ∧ report.value.IsTextOf text) ∧
    (report.checkedAgainst folder path = .error .difference ↔
      ∃ text other, folder.readText? path = some text ∧ other.IsTextOf text ∧
        other ≠ report.value) ∧
    (report.checkedAgainst folder path = .error (.parsing path) ↔
      ∃ text, folder.readText? path = some text ∧ ∀ value : Value, ¬value.IsTextOf text) ∧
    (report.checkedAgainst folder path = .error (.opening path) ↔
      folder.readText? path = none) := by
  rw [checkedAgainst_eq, Folder.compare]
  cases folder.readText? path with
  | none => simp
  | some text =>
      cases parsed : parse? text with
      | none =>
          have nothing : ∀ value : Value, ¬value.IsTextOf text := by
            intro value isText
            rw [parse?_eq_some_iff.mpr isText] at parsed
            cases parsed
          simp [nothing, parsed]
      | some reference =>
          have only : ∀ value : Value, value.IsTextOf text ↔ value = reference := by
            intro value
            rw [← parse?_eq_some_iff, parsed, Option.some.injEq, eq_comm]
          by_cases same : reference = report.value
          · simp [only, parsed, pretty_eq_text_iff, same]
          · simp [only, parsed, pretty_eq_text_iff, same, Ne.symm same]

end Report

/-- **Comparing the report on a setup with a reference decides whether the reference stands for
the same value.**  The comparison succeeds exactly if it does, fails with a difference exactly if
the reference stands for another value, and otherwise tells whether the file is no text or the
text stands for nothing.  So the text of a report is accepted as its own reference wherever it
is written. -/
theorem reference_decides_equality (setup : Setup) (requirements : Requirements)
    (tab : TabChoice) (folder : Folder) (path : String) :
    let report := setup.report requirements tab
    (report.checkedAgainst folder path = .ok () ↔
      ∃ text, folder.readText? path = some text ∧ report.value.IsTextOf text) ∧
    (report.checkedAgainst folder path = .error .difference ↔
      ∃ text other, folder.readText? path = some text ∧ other.IsTextOf text ∧
        other ≠ report.value) ∧
    (report.checkedAgainst folder path = .error (.parsing path) ↔
      ∃ text, folder.readText? path = some text ∧ ∀ value : Value, ¬value.IsTextOf text) ∧
    (report.checkedAgainst folder path = .error (.opening path) ↔
      folder.readText? path = none) ∧
    ∀ written, folder.write? path (.text report.text) = some written →
      report.checkedAgainst written path = .ok () := by
  intro report
  obtain ⟨same, differs, nothing, unread⟩ := report.checkedAgainst_iff folder path
  refine ⟨same, differs, nothing, unread, ?_⟩
  intro written writes
  obtain ⟨_, holds⟩ := Folder.readText?_of_write? writes
  exact (report.checkedAgainst_iff written path).1.mpr ⟨report.text, holds, report.isTextOf_text⟩

/-- A folder whose reference says nothing. -/
def emptyReference : Folder := { files := [(["reference.json"], .text " null\n")] }

/-- The report on a new election is accepted where it is saved, and differs from a reference that
says nothing. -/
theorem new_report_is_accepted :
    (∃ written, Folder.write? {} "reference.json"
        (.text (Setup.report {} .usual .automatic).text) = some written ∧
      (Setup.report {} .usual .automatic).checkedAgainst written "reference.json" = .ok ()) ∧
    (Setup.report {} .usual .automatic).checkedAgainst emptyReference "reference.json" =
      .error .difference := by
  have vacant : (Folder.write? {} "reference.json"
      (.text (Setup.report {} .usual .automatic).text)).isSome = true := by decide +kernel
  have holds : emptyReference.readText? "reference.json" = some " null\n" := by decide +kernel
  have before : AreBlanks [' '] := List.forall_mem_singleton.mpr (by decide)
  have after : AreBlanks ['\n'] := List.forall_mem_singleton.mpr (by decide)
  have isText : Value.IsTextOf .null " null\n" :=
    ⟨.null, .blanks before .null after, Nat.zero_le _, .null⟩
  obtain ⟨written, writes⟩ := Option.isSome_iff_exists.mp vacant
  refine ⟨⟨written, writes, ?_⟩, ?_⟩
  · exact (reference_decides_equality {} .usual .automatic {} "reference.json").2.2.2.2 written
      writes
  · exact (reference_decides_equality {} .usual .automatic emptyReference "reference.json").2.1.mpr
      ⟨" null\n", .null, holds, isText, nofun⟩

end ElectionReadiness
