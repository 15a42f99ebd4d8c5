import ElectionReadiness.Proofs.Command.RootedPath

/-!
# What a run changes

A run changes at most two files, the setup file if it saves it and the file of the report
(`run_changes_only_its_files`).  It refuses its arguments before it changes or prints anything
(`Folder.Refuses`); otherwise it takes a setup (`Folder.Takes`) and leaves it saved, if that was
wanted, with the report where it was wanted (`Folder.Leaves`).  A reference is only looked at.
-/

set_option autoImplicit false

namespace ElectionReadiness.Command

namespace Folder

/-- The files that a run may change. -/
inductive MayChange (folder : Folder) (arguments : Arguments) : List String → Prop
  | config {path : String} {steps : List String} (config : arguments.config = some path)
      (saves : arguments.save = true) (names : folder.Names path steps) :
      MayChange folder arguments steps
  | out {path : String} {steps : List String} (out : arguments.outPath? = some path)
      (names : folder.Names path steps) : MayChange folder arguments steps

/-- Arguments are refused in a folder: they name no setup file, or no tab, or a setup file that
cannot be read or cannot be saved. -/
inductive Refuses (folder : Folder) (arguments : Arguments) : Failure → Prop
  | noConfig (absent : arguments.config = none) : Refuses folder arguments .missingConfig
  | unknownTab {path : String} {failure : Failure} (config : arguments.config = some path)
      (fails : tabChoice arguments.tab = .error failure) : Refuses folder arguments failure
  | unreadable {path : String} {tab : TabChoice} {failure : Failure}
      (config : arguments.config = some path) (chosen : tabChoice arguments.tab = .ok tab)
      (fails : folder.load path = .error failure) : Refuses folder arguments failure
  | unwritable {path : String} {tab : TabChoice} {file : SetupFile}
      (config : arguments.config = some path) (chosen : tabChoice arguments.tab = .ok tab)
      (loads : folder.load path = .ok file) (saves : arguments.save = true)
      (noFile : ∀ steps, ¬folder.Names path steps) : Refuses folder arguments (.writing path)

/-- A run takes what a setup file says and makes a report on it. -/
structure Takes (folder : Folder) (arguments : Arguments) (path : String) (file : SetupFile)
    (report : String) : Prop where
  config : arguments.config = some path
  loads : folder.load path = .ok file
  reports : ∃ tab, tabChoice arguments.tab = .ok tab ∧
    (file.setup.report arguments.requirements tab).text = report
  savable : arguments.save = true → ∃ steps, folder.Names path steps

/-- What a run shows that took a setup. -/
structure Leaves (folder : Folder) (arguments : Arguments) (path : String) (file : SetupFile)
    (report : String) (shown : Shown) : Prop where
  /-- The setup file holds the text of what was read. -/
  saved : arguments.save = true →
    (∀ out, arguments.outPath? = some out → ¬folder.SameFile path out) →
    shown.folder.readText? path = some file.text
  /-- Without saving the setup file is untouched. -/
  untouched : arguments.save = false →
    (∀ out, arguments.outPath? = some out → ¬folder.SameFile path out) →
    shown.folder.readText? path = folder.readText? path
  /-- What is printed starts with the report, if that has no file. -/
  printed : arguments.outPath? = none → ∃ more, shown.printed = report ++ "\n" ++ more
  /-- The file of the report holds it, or it cannot be written and only the setup was saved. -/
  written : ∀ out, arguments.outPath? = some out →
    shown.folder.readText? out = some report ∨
      shown.result = .error (.writing out) ∧ (∀ steps, ¬folder.Names out steps) ∧
        folder.keep arguments.save path file = .ok shown.folder ∧ shown.printed = ""
  /-- If both go to the same file, the report is kept. -/
  kept : ∀ out, arguments.outPath? = some out → folder.SameFile path out →
    shown.folder.readText? path = some report

variable {folder saved : Folder} {arguments : Arguments} {path report : String}
  {file : SetupFile}

/-! ## Refused or taken -/

theorem refuses_of_prepare {failure : Failure} (fails : folder.prepare arguments = .error failure) :
    folder.Refuses arguments failure := by
  unfold prepare at fails
  split at fails
  · next absent =>
    cases fails
    exact .noConfig absent
  · next path config =>
    split at fails
    · next unknown =>
      cases fails
      exact .unknownTab config unknown
    · next tab chosen =>
      split at fails
      · next unread =>
        cases fails
        exact .unreadable config chosen unread
      · next file loads =>
        cases keeps : folder.keep arguments.save path file with
        | ok saved =>
            rw [keeps] at fails
            cases fails
        | error cause =>
            rw [keeps] at fails
            cases fails
            obtain ⟨wanted, rfl, noFile⟩ := keep_eq_error_iff.mp keeps
            exact .unwritable config chosen loads wanted noFile

/-- **No report is prepared exactly where the arguments are refused.** -/
theorem prepare_eq_error_iff {failure : Failure} :
    folder.prepare arguments = .error failure ↔ folder.Refuses arguments failure := by
  refine ⟨refuses_of_prepare, ?_⟩
  intro refuses
  cases refuses with
  | noConfig absent => simp only [prepare, absent]
  | unknownTab config fails => simp only [prepare, config, fails]
  | unreadable config chosen fails => simp only [prepare, config, chosen, fails]
  | @unwritable path tab file config chosen loads saves noFile =>
      have fails : folder.keep arguments.save path file = .error (.writing path) :=
        keep_eq_error_iff.mpr ⟨saves, rfl, noFile⟩
      simp only [prepare, config, chosen, loads, fails, Except.map]

theorem takes_of_prepare (prepares : folder.prepare arguments = .ok (saved, report)) :
    ∃ path file, folder.Takes arguments path file report ∧
      folder.keep arguments.save path file = .ok saved := by
  obtain ⟨path, tab, file, config, chosen, loads, keeps, reports⟩ := prepare_eq_ok_iff.mp prepares
  refine ⟨path, file, ⟨config, loads, ⟨tab, chosen, reports⟩, ?_⟩, keeps⟩
  intro wanted
  rw [wanted] at keeps
  obtain ⟨steps, names, _⟩ := save_eq_ok_iff.mp keeps
  exact ⟨steps, names⟩

/-! ## The files -/

theorem differsOnlyAt_keep {wanted : Bool} {may : List String → Prop}
    (keeps : folder.keep wanted path file = .ok saved)
    (allowed : wanted = true → ∀ steps, folder.Names path steps → may steps) :
    DiffersOnlyAt may folder saved := by
  cases wanted with
  | false =>
      cases keeps
      exact .refl may folder
  | true => exact differsOnlyAt_save keeps (allowed rfl)

/-- A run changes no file but those that it may change. -/
theorem differsOnlyAt_course (folder : Folder) (arguments : Arguments) :
    DiffersOnlyAt (folder.MayChange arguments) folder (folder.course arguments).folder := by
  rw [course]
  split
  · exact .refl _ folder
  · split
    · exact .refl _ folder
    · next saved report prepares =>
      obtain ⟨path, file, takes, keeps⟩ := takes_of_prepare prepares
      have first : DiffersOnlyAt (folder.MayChange arguments) folder saved :=
        differsOnlyAt_keep keeps fun saves steps names => .config takes.config saves names
      rcases saved.folder_finish arguments report with same | ⟨out, wanted, saves⟩
      · rw [same]
        exact first
      · refine first.trans (differsOnlyAt_save saves fun steps names => ?_)
        exact .out wanted ((names_keep keeps).mp names)

/-! ## What is left -/

/-- Away from the file of the report all is read as before the report. -/
theorem readText?_finish_apart
    (apart : ∀ out, arguments.outPath? = some out → ¬folder.SameFile path out) :
    (folder.finish arguments report).folder.readText? path = folder.readText? path := by
  rcases folder.folder_finish arguments report with same | ⟨out, wanted, saves⟩
  · rw [same]
  · exact (shows_save_apart saves (apart out wanted)).2

/-- A report that has a file is in it, or its file cannot be written. -/
theorem finish_of_out {out : String} (wanted : arguments.outPath? = some out) :
    folder.save out report = .ok (folder.finish arguments report).folder ∨
      folder.save out report = .error (.writing out) ∧
        folder.finish arguments report = ⟨.error (.writing out), folder, ""⟩ := by
  cases saves : folder.save out report with
  | ok written =>
      left
      simp only [finish, wanted, deliver, saves, Except.map, folder_check]
  | error failure =>
      right
      obtain ⟨rfl, _⟩ := save_eq_error_iff.mp saves
      simp only [finish, wanted, deliver, saves, Except.map, and_self]

theorem exists_printed_check (folder : Folder) (reference : Option String)
    (report printed : String) :
    ∃ more, (folder.check reference report printed).printed = printed ++ more := by
  cases reference with
  | none => exact ⟨"", String.append_empty.symm⟩
  | some path => exact ⟨_, rfl⟩

theorem leaves_finish (keeps : folder.keep arguments.save path file = .ok saved) :
    folder.Leaves arguments path file report (saved.finish arguments report) where
  saved wanted apart := by
    have apartSaved : ∀ out, arguments.outPath? = some out → ¬saved.SameFile path out :=
      fun out goal => (not_congr (sameFile_keep keeps)).mpr (apart out goal)
    rw [readText?_finish_apart apartSaved]
    rw [wanted] at keeps
    exact (holds_save keeps).2
  untouched unwanted apart := by
    have apartSaved : ∀ out, arguments.outPath? = some out → ¬saved.SameFile path out :=
      fun out goal => (not_congr (sameFile_keep keeps)).mpr (apart out goal)
    rw [readText?_finish_apart apartSaved]
    rw [unwanted] at keeps
    cases keeps
    rfl
  printed noFile := by
    simp only [finish, noFile, deliver]
    exact exists_printed_check saved arguments.reference report (report ++ "\n")
  written out goal := by
    rcases finish_of_out goal with saves | ⟨fails, finished⟩
    · exact .inl (holds_save saves).2
    · refine .inr ?_
      rw [finished]
      obtain ⟨_, noFile⟩ := save_eq_error_iff.mp fails
      exact ⟨rfl, fun steps => (not_congr (names_keep keeps)).mp (noFile steps), keeps, rfl⟩
  kept out goal same := by
    have sameSaved : saved.SameFile path out := (sameFile_keep keeps).mpr same
    rcases finish_of_out goal with saves | ⟨fails, _⟩
    · exact readText?_save_sameFile saves sameSaved
    · obtain ⟨_, noFile⟩ := save_eq_error_iff.mp fails
      obtain ⟨steps, _, names⟩ := sameSaved
      exact absurd names (noFile steps)

/-- A reference adds to what is printed, and changes nothing in the folder. -/
theorem finish_reference (folder : Folder) (arguments : Arguments) (report : String) :
    (folder.finish arguments report).folder =
        (folder.finish { arguments with reference := none } report).folder ∧
      ∃ more, (folder.finish arguments report).printed =
        (folder.finish { arguments with reference := none } report).printed ++ more := by
  have goal : ({ arguments with reference := none } : Arguments).outPath? = arguments.outPath? := rfl
  simp only [finish, goal]
  cases folder.deliver arguments.outPath? report with
  | error failure => exact ⟨rfl, "", rfl⟩
  | ok delivered =>
      exact ⟨folder_check _ arguments.reference report _, exists_printed_check _ _ _ _⟩

theorem course_reference (folder : Folder) (arguments : Arguments) :
    (folder.course arguments).folder =
        (folder.course { arguments with reference := none }).folder ∧
      ∃ more, (folder.course arguments).printed =
        (folder.course { arguments with reference := none }).printed ++ more := by
  have prepares : folder.prepare { arguments with reference := none } = folder.prepare arguments :=
    rfl
  simp only [course, prepares]
  split
  · exact ⟨rfl, "", String.append_empty.symm⟩
  · split
    · exact ⟨rfl, "", rfl⟩
    · exact finish_reference _ arguments _

end Folder

/-- **A run changes no file but those that it may change, and these only as it should.**
Listing zones changes nothing.  Arguments that are refused change and print nothing.  Otherwise
the setup is saved, if that was wanted, and then the report is in its file, or printed first, or
its file could not be written.  A reference changes nothing but what is printed after. -/
theorem run_changes_only_its_files (arguments : Arguments) (folder : Folder) :
    let shown := Session.shown (Session.run arguments folder)
    let bare := Session.shown (Session.run { arguments with reference := none } folder)
    Folder.DiffersOnlyAt (folder.MayChange arguments) folder shown.folder ∧
    (arguments.zones ≠ none → shown.folder = folder) ∧
    (arguments.zones = none →
      (∀ failure, folder.Refuses arguments failure → shown = ⟨.error failure, folder, ""⟩) ∧
      ((∀ failure, ¬folder.Refuses arguments failure) →
        ∃ path file report, folder.Takes arguments path file report ∧
          folder.Leaves arguments path file report shown)) ∧
    shown.folder = bare.folder ∧ ∃ more, shown.printed = bare.printed ++ more := by
  intro shown bare
  have ran : shown = folder.course arguments := Session.shown_run arguments folder
  have ranBare : bare = folder.course { arguments with reference := none } :=
    Session.shown_run { arguments with reference := none } folder
  rw [ran, ranBare]
  refine ⟨folder.differsOnlyAt_course arguments, ?_, ?_, folder.course_reference arguments⟩
  · intro listed
    obtain ⟨start, zones⟩ := Option.ne_none_iff_exists'.mp listed
    simp only [Folder.course, zones]
  · intro zones
    simp only [Folder.course, zones]
    constructor
    · intro failure refuses
      simp only [Folder.prepare_eq_error_iff.mpr refuses]
    · intro taken
      cases prepares : folder.prepare arguments with
      | error failure => exact absurd (Folder.refuses_of_prepare prepares) (taken failure)
      | ok prepared =>
          obtain ⟨saved, report⟩ := prepared
          obtain ⟨path, file, takes, keeps⟩ := Folder.takes_of_prepare prepares
          exact ⟨path, file, report, takes, Folder.leaves_finish keeps⟩

/-- Saves a new election below the root, and writes the report on it to the same file by its
path from the root. -/
def overwritingRun : Arguments where
  config := some "election.json"
  out := some (Folder.town.fromRoot "election.json")
  save := true

/-- Of a setup and a report that go to the same file the report is kept. -/
theorem overwritingRun_keeps_report :
    overwritingRun.zones = none ∧ (∀ failure, ¬Folder.town.Refuses overwritingRun failure) ∧
    ∃ file report, Folder.town.Takes overwritingRun "election.json" file report ∧
      (Session.shown (Session.run overwritingRun Folder.town)).folder.readText? "election.json" =
        some report := by
  have config : Folder.town.Names "election.json" ["town", "election.json"] :=
    .inr (by decide +kernel)
  have out : Folder.town.Names (Folder.town.fromRoot "election.json") ["town", "election.json"] :=
    (Folder.names_fromRoot Folder.isName_town ⟨'e', _, rfl, by decide⟩ (by decide +kernel)).mpr
      config
  have wanted : overwritingRun.outPath? = some (Folder.town.fromRoot "election.json") := by
    decide +kernel
  have missing : Folder.town.load "election.json" = .ok {} := by
    have absent : Folder.town.isPresent "election.json" = false := by decide +kernel
    simp only [Folder.load, absent, Bool.false_eq_true, if_false]
  have taken : ∀ failure, ¬Folder.town.Refuses overwritingRun failure := by
    rintro failure (⟨⟨⟩⟩ | ⟨_, ⟨⟩⟩ | ⟨⟨⟩, _, fails⟩ | ⟨⟨⟩, _, _, _, noFile⟩)
    · rw [missing] at fails
      cases fails
    · exact noFile _ config
  obtain ⟨path, file, report, takes, leaves⟩ :=
    ((run_changes_only_its_files overwritingRun Folder.town).2.2.1 rfl).2 taken
  cases takes.config
  exact ⟨rfl, taken, file, report, takes, leaves.kept _ wanted ⟨_, config, out⟩⟩

end ElectionReadiness.Command
