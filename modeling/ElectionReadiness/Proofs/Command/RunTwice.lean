import ElectionReadiness.Proofs.Command.RootedPath
import ElectionReadiness.Proofs.SetupFile.RoundTrip

/-!
# Running twice

A run leaves a folder in which the same run changes nothing, and gives and prints the same
again (`running_twice_is_running_once`), unless its report goes to the setup file itself.  For
what is saved is read back as what was saved, so the setup is *settled* after the first run
(`Folder.Settled`), and the report, which goes to another file, leaves it so.
-/

set_option autoImplicit false

namespace ElectionReadiness.Command

namespace Folder

variable {folder saved later : Folder} {wanted : Bool} {path out report : String}
  {file : SetupFile}

/-! ## Settled setups -/

/-- A file says something, and saving it, if that is wanted, changes nothing. -/
structure Settled (folder : Folder) (wanted : Bool) (path : String) (file : SetupFile) : Prop where
  loads : folder.load path = .ok file
  keeps : folder.keep wanted path file = .ok folder

theorem load_of_text (present : folder.isPresent path = true)
    (holds : folder.readText? path = some file.text) : folder.load path = .ok file := by
  simp only [load, present, if_true, holds, SetupFile.read?_text]

/-- A setup that was read is settled once it is saved, if that is wanted.  A file that was
missing then says the empty setup. -/
theorem settled_of_keep (loads : folder.load path = .ok file)
    (keeps : folder.keep wanted path file = .ok saved) : saved.Settled wanted path file := by
  cases wanted with
  | false =>
      cases keeps
      exact ⟨loads, rfl⟩
  | true =>
      obtain ⟨present, holds⟩ := holds_save keeps
      exact ⟨load_of_text present holds, save_of_readText? holds⟩

/-- A setup stays settled when another file is written. -/
theorem Settled.save_apart (settled : folder.Settled wanted path file)
    (saves : folder.save out report = .ok later) (apart : ¬folder.SameFile path out) :
    later.Settled wanted path file := by
  obtain ⟨present, holds⟩ := shows_save_apart saves apart
  constructor
  · rw [load, present, holds]
    exact settled.loads
  · cases wanted with
    | false => rfl
    | true =>
        have held : folder.readText? path = some file.text := (holds_save settled.keeps).2
        exact save_of_readText? (holds.trans held)

/-! ## The course again -/

/-- A report that was delivered is delivered to the same effect again. -/
theorem deliver_again {delivered : Folder} {goal : Option String} {printed : String}
    (delivers : folder.deliver goal report = .ok (delivered, printed)) :
    delivered.deliver goal report = .ok (delivered, printed) := by
  rw [deliver_eq_ok_iff] at delivers ⊢
  obtain ⟨noFile, rfl, prints⟩ | ⟨out, wanted, saves, prints⟩ := delivers
  · exact .inl ⟨noFile, rfl, prints⟩
  · exact .inr ⟨out, wanted, save_of_readText? (holds_save saves).2, prints⟩

/-- What was shown of a report is shown again. -/
theorem finish_again (folder : Folder) (arguments : Arguments) (report : String) :
    (folder.finish arguments report).folder.finish arguments report =
      folder.finish arguments report := by
  cases delivers : folder.deliver arguments.outPath? report with
  | error failure => simp only [finish, delivers]
  | ok delivered =>
      obtain ⟨written, printed⟩ := delivered
      simp only [finish, delivers, folder_check, deliver_again delivers]

/-- A report is prepared again from the folder that it was left in. -/
theorem prepare_again {arguments : Arguments}
    (prepares : folder.prepare arguments = .ok (saved, report))
    (apart : ∀ config out, arguments.config = some config → arguments.outPath? = some out →
      ¬folder.SameFile config out) :
    (saved.finish arguments report).folder.prepare arguments =
      .ok ((saved.finish arguments report).folder, report) := by
  obtain ⟨path, tab, file, config, chosen, loads, keeps, reports⟩ := prepare_eq_ok_iff.mp prepares
  have settled := settled_of_keep loads keeps
  have settledAfter :
      (saved.finish arguments report).folder.Settled arguments.save path file := by
    rcases saved.folder_finish arguments report with same | ⟨out, wanted, saves⟩
    · rw [same]
      exact settled
    · refine settled.save_apart saves ?_
      rw [sameFile_keep keeps]
      exact apart path out config wanted
  exact prepare_eq_ok_iff.mpr
    ⟨path, tab, file, config, chosen, settledAfter.loads, settledAfter.keeps, reports⟩

/-- **A run in the folder that it left shows the same.** -/
theorem course_again {arguments : Arguments}
    (apart : ∀ config out, arguments.config = some config → arguments.outPath? = some out →
      ¬folder.SameFile config out) :
    (folder.course arguments).folder.course arguments = folder.course arguments := by
  cases zones : arguments.zones with
  | some start => simp only [course, zones]
  | none =>
      cases prepares : folder.prepare arguments with
      | error failure => simp only [course, zones, prepares]
      | ok prepared =>
          obtain ⟨saved, report⟩ := prepared
          simp only [course, zones, prepares, prepare_again prepares apart, finish_again]

end Folder

/-- **Running twice is running once.**  In the folder that a run leaves, the same run gives the
same result, prints the same and leaves the folder as it is, unless its report goes to the setup
file itself. -/
theorem running_twice_is_running_once (arguments : Arguments) (folder : Folder)
    (apart : ∀ config out, arguments.config = some config → arguments.outPath? = some out →
      ¬folder.SameFile config out) :
    let once := Session.run arguments folder
    let twice := Session.run arguments once.2.folder
    twice.1 = once.1 ∧ twice.2.printed = once.2.printed ∧ twice.2.folder = once.2.folder := by
  intro once twice
  have shown : Session.shown once = folder.course arguments := Session.shown_run arguments folder
  have left : once.2.folder = (folder.course arguments).folder := congrArg Shown.folder shown
  have shownAgain : Session.shown twice = Session.shown once := by
    rw [shown, ← Folder.course_again apart, ← left]
    exact Session.shown_run arguments once.2.folder
  exact ⟨congrArg Shown.result shownAgain, congrArg Shown.printed shownAgain,
    congrArg Shown.folder shownAgain⟩

/-- Saves a new election by its path from the root, and writes the report on it to a file around
the working folder that is also the reference. -/
def savingRun : Arguments where
  config := some "/town/election.json"
  out := some "../report.json"
  reference := some "/report.json"
  save := true

/-- A run that creates both of its files changes nothing the second time. -/
theorem savingRun_settles :
    (∀ config out, savingRun.config = some config → savingRun.outPath? = some out →
      ¬Folder.town.SameFile config out) ∧
    let once := Session.run savingRun Folder.town
    let twice := Session.run savingRun once.2.folder
    twice.1 = once.1 ∧ twice.2.printed = once.2.printed ∧ twice.2.folder = once.2.folder := by
  have config : Folder.town.Names "/town/election.json" ["town", "election.json"] :=
    .inr (by decide +kernel)
  have out : Folder.town.Names "../report.json" ["report.json"] := .inr (by decide +kernel)
  have wanted : savingRun.outPath? = some "../report.json" := by decide +kernel
  have apart : ∀ path other, savingRun.config = some path → savingRun.outPath? = some other →
      ¬Folder.town.SameFile path other := by
    rintro path other ⟨⟩ goal ⟨steps, first, second⟩
    cases wanted.symm.trans goal
    exact absurd ((first.unique config).symm.trans (second.unique out)) (by decide)
  exact ⟨apart, running_twice_is_running_once savingRun Folder.town apart⟩

end ElectionReadiness.Command
