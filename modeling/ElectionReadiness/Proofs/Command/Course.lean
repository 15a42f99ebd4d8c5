import ElectionReadiness.Proofs.Command.Outcome

/-!
# The course of a run

A run reads a setup, saves it if that is wanted, writes or prints the report on it and compares
the report with a reference.  Each of these steps is a function of the folder it finds, and so
is the whole run (`Folder.course`): its result, the folder it leaves and what it prints depend
on nothing but the arguments and the folder (`Session.shown_run`).  Notices are left out,
for nothing reads them.
-/

set_option autoImplicit false

namespace ElectionReadiness.Command

/-! ## The steps -/

/-- The file that the report goes to; none if it is printed. -/
def Arguments.outPath? (arguments : Arguments) : Option String :=
  match arguments.out with
  | none => none
  | some path => if path = "" ∨ path = standardOutput then none else some path

theorem Arguments.outPath?_eq (arguments : Arguments) :
    arguments.outPath? =
      if (arguments.out.getD "").isEmpty || arguments.out.getD "" == standardOutput then none
      else some (arguments.out.getD "") := by
  unfold outPath?
  cases arguments.out with
  | none => rfl
  | some path => simp

/-- What a run gives, leaves and prints. -/
structure Shown where
  result : Except Failure Unit
  folder : Folder
  printed : String

namespace Folder

/-- What the setup file at a path says.  A file that is not there yet says nothing. -/
def load (folder : Folder) (path : String) : Except Failure SetupFile :=
  if folder.isPresent path then
    match folder.readText? path with
    | none => .error (.opening path)
    | some text =>
      match SetupFile.read? text with
      | none => .error (.parsing path)
      | some file => .ok file
  else .ok {}

/-- The folder once a text is the whole content of a file. -/
def save (folder : Folder) (path text : String) : Except Failure Folder :=
  match folder.write? path (.text text) with
  | none => .error (.writing path)
  | some written => .ok written

/-- The folder once a setup file is saved, if that is wanted. -/
def keep (folder : Folder) (wanted : Bool) (path : String) (file : SetupFile) :
    Except Failure Folder := if wanted then folder.save path file.text else .ok folder

/-- The folder once the report is where it is wanted, and what is printed of it. -/
def deliver (folder : Folder) (out : Option String) (report : String) :
    Except Failure (Folder × String) :=
  match out with
  | none => .ok (folder, report ++ "\n")
  | some path => (folder.save path report).map fun written => (written, "")

/-- What comparing a report with the reference at a path gives, and what it prints. -/
def compare (folder : Folder) (path report : String) : Except Failure Unit × String :=
  match folder.readText? path with
  | none => (.error (.opening path), "")
  | some text =>
    match Json.Value.parse? text with
    | none => (.error (.parsing path), "")
    | some reference =>
      if reference.pretty = report then (.ok (), "")
      else (.error .difference, Differences.text reference.pretty report)

/-! ## The whole run -/

/-- The report on the setup that arguments name, and the folder with the setup saved. -/
def prepare (folder : Folder) (arguments : Arguments) : Except Failure (Folder × String) :=
  match arguments.config with
  | none => .error .missingConfig
  | some path =>
    match tabChoice arguments.tab with
    | .error failure => .error failure
    | .ok tab =>
      match folder.load path with
      | .error failure => .error failure
      | .ok file =>
        (folder.keep arguments.save path file).map fun saved =>
          (saved, (file.setup.report arguments.requirements tab).text)

/-- What is shown once a report is delivered: how it compares with a reference, if one is
given. -/
def check (folder : Folder) (reference : Option String) (report printed : String) : Shown :=
  match reference with
  | none => ⟨.ok (), folder, printed⟩
  | some path =>
    ⟨(folder.compare path report).1, folder, printed ++ (folder.compare path report).2⟩

/-- What is shown once the report is known. -/
def finish (folder : Folder) (arguments : Arguments) (report : String) : Shown :=
  match folder.deliver arguments.outPath? report with
  | .error failure => ⟨.error failure, folder, ""⟩
  | .ok (delivered, printed) => delivered.check arguments.reference report printed

/-- What a run shows. -/
def course (folder : Folder) (arguments : Arguments) : Shown :=
  match arguments.zones with
  | some start => ⟨.ok (), folder, String.join ((TimeZone.namesFrom start).map (· ++ "\n"))⟩
  | none =>
    match folder.prepare arguments with
    | .error failure => ⟨.error failure, folder, ""⟩
    | .ok (saved, report) => saved.finish arguments report

/-- A report is prepared from a setup that is read and, if that is wanted, saved. -/
theorem prepare_eq_ok_iff {folder saved : Folder} {arguments : Arguments} {report : String} :
    folder.prepare arguments = .ok (saved, report) ↔
      ∃ path tab file, arguments.config = some path ∧ tabChoice arguments.tab = .ok tab ∧
        folder.load path = .ok file ∧ folder.keep arguments.save path file = .ok saved ∧
        (file.setup.report arguments.requirements tab).text = report := by
  constructor
  · intro prepares
    unfold prepare at prepares
    split at prepares
    · cases prepares
    · next path config =>
      split at prepares
      · cases prepares
      · next tab chosen =>
        split at prepares
        · cases prepares
        · next file loads =>
          cases keeps : folder.keep arguments.save path file with
          | error failure =>
              rw [keeps] at prepares
              cases prepares
          | ok kept =>
              rw [keeps] at prepares
              cases prepares
              exact ⟨path, tab, file, config, chosen, loads, keeps, rfl⟩
  · rintro ⟨path, tab, file, config, chosen, loads, keeps, rfl⟩
    simp only [prepare, config, chosen, loads, keeps, Except.map]

/-- A report is delivered by printing it or by writing it to its file. -/
theorem deliver_eq_ok_iff {folder delivered : Folder} {out : Option String}
    {report printed : String} :
    folder.deliver out report = .ok (delivered, printed) ↔
      (out = none ∧ folder = delivered ∧ report ++ "\n" = printed) ∨
        ∃ path, out = some path ∧ folder.save path report = .ok delivered ∧ "" = printed := by
  cases out with
  | none => simp [deliver]
  | some path =>
      cases saves : folder.save path report with
      | error failure => simp [deliver, saves, Except.map]
      | ok written => simp [deliver, saves, Except.map]

theorem folder_check (folder : Folder) (reference : Option String) (report printed : String) :
    (folder.check reference report printed).folder = folder := by
  cases reference <;> rfl

/-- The folder after a report is the one before, or has the report in its file. -/
theorem folder_finish (folder : Folder) (arguments : Arguments) (report : String) :
    (folder.finish arguments report).folder = folder ∨
      ∃ out, arguments.outPath? = some out ∧
        folder.save out report = .ok (folder.finish arguments report).folder := by
  rw [finish]
  cases delivers : folder.deliver arguments.outPath? report with
  | error failure => exact .inl rfl
  | ok delivered =>
      obtain ⟨written, printed⟩ := delivered
      simp only [folder_check]
      obtain ⟨_, same, _⟩ | ⟨out, wanted, saves, _⟩ := deliver_eq_ok_iff.mp delivers
      · exact .inl same.symm
      · exact .inr ⟨out, wanted, saves⟩

end Folder

/-! ## The steps of a session -/

namespace Session

theorem outcome_print (text : String) (session : Session) :
    outcome (always (environment.print text)) session =
      (.ok (), { session with printed := session.printed ++ text }) := rfl

theorem outcome_load (path : String) (session : Session) :
    ∃ notices read, outcome (readSetup environment path) session =
        (read, { session with notices := notices }) ∧
      read.map (fun file => file.getD {}) = session.folder.load path := by
  rw [readSetup, outcome_bind, outcome_isPresent, Folder.load]
  cases session.folder.isPresent path with
  | false => exact ⟨_, .ok none, rfl, rfl⟩
  | true =>
      simp only [if_true]
      rw [outcome_bind, outcome_readText]
      cases session.folder.readText? path with
      | none => exact ⟨session.notices, .error (.opening path), rfl, rfl⟩
      | some text =>
          simp only
          cases SetupFile.read? text with
          | none => exact ⟨session.notices, .error (.parsing path), rfl, rfl⟩
          | some file => exact ⟨_, .ok (some file), rfl, rfl⟩

theorem outcome_writeFile (path text : String) (session : Session) :
    outcome (writeFile environment path text) session =
      match session.folder.save path text with
      | .error failure => (.error failure, session)
      | .ok written => (.ok (), { session with folder := written }) := by
  rw [writeFile, outcome_bind, outcome_writeText, Folder.save]
  cases session.folder.write? path (.text text) with
  | none => exact outcome_throw (.writing path) session
  | some written => exact outcome_pure () _

theorem outcome_tellAll (notices : List Notice) (session : Session) :
    ∃ told, outcome (forIn notices PUnit.unit fun notice _ => do
        always (environment.tell notice)
        pure (ForInStep.yield PUnit.unit)) session =
      (.ok (), { session with notices := told }) := by
  induction notices generalizing session with
  | nil => exact ⟨session.notices, rfl⟩
  | cons notice later ih =>
      rw [List.forIn_cons, outcome_bind, outcome_bind, outcome_tell]
      exact ih { session with notices := session.notices ++ [notice] }

theorem outcome_writeReport (arguments : Arguments) (report : String) (session : Session) :
    ∃ notices, outcome (writeReport environment arguments.out report) session =
      match session.folder.deliver arguments.outPath? report with
      | .error failure => (.error failure, session)
      | .ok (delivered, printed) =>
        (.ok (), ⟨delivered, session.printed ++ printed, notices⟩) := by
  rw [arguments.outPath?_eq, writeReport]
  cases isPrinted : (arguments.out.getD "").isEmpty || arguments.out.getD "" == standardOutput with
  | true =>
      simp only [if_true, Folder.deliver]
      exact ⟨session.notices, outcome_print _ session⟩
  | false =>
      simp only [Bool.false_eq_true, if_false, Folder.deliver]
      rw [outcome_bind, outcome_writeFile]
      cases session.folder.save (arguments.out.getD "") report with
      | error failure => exact ⟨[], rfl⟩
      | ok written =>
          refine ⟨session.notices ++ [.reportWritten (arguments.out.getD "")], ?_⟩
          simp only [Except.map, String.append_empty]
          exact outcome_tell _ _

theorem outcome_checkReference (path report : String) (session : Session) :
    ∃ notices, outcome (checkReference environment path report) session =
      ((session.folder.compare path report).1,
        ⟨session.folder, session.printed ++ (session.folder.compare path report).2, notices⟩) := by
  rw [checkReference, outcome_bind, outcome_readText, Folder.compare]
  cases session.folder.readText? path with
  | none =>
      refine ⟨session.notices, ?_⟩
      simp only [String.append_empty]
      rfl
  | some text =>
      simp only
      cases Json.Value.parse? text with
      | none =>
          refine ⟨session.notices, ?_⟩
          simp only [String.append_empty]
          rfl
      | some reference =>
          simp only
          split
          · refine ⟨session.notices ++ [.referenceMatches path], ?_⟩
            rw [outcome_tell, String.append_empty]
          · exact ⟨_, rfl⟩

/-! ## The run -/

/-- What an outcome shows. -/
def shown (ran : Except Failure Unit × Session) : Shown := ⟨ran.1, ran.2.folder, ran.2.printed⟩

theorem shown_check (reference : Option String) (report : String) (session : Session) :
    shown (outcome (match reference with
        | none => pure ()
        | some path => checkReference environment path report) session) =
      session.folder.check reference report session.printed := by
  cases reference with
  | none => exact rfl
  | some path =>
      obtain ⟨notices, ran⟩ := outcome_checkReference path report session
      simp only [ran]
      exact rfl

theorem shown_finish (arguments : Arguments) (report : String) (folder : Folder)
    (notices : List Notice) :
    shown (outcome (do
        writeReport environment arguments.out report
        match arguments.reference with
        | none => pure ()
        | some path => checkReference environment path report) ⟨folder, "", notices⟩) =
      folder.finish arguments report := by
  obtain ⟨told, ran⟩ := outcome_writeReport arguments report ⟨folder, "", notices⟩
  rw [outcome_bind, ran, Folder.finish]
  cases folder.deliver arguments.outPath? report with
  | error failure => exact rfl
  | ok delivered =>
      obtain ⟨written, printed⟩ := delivered
      simp only [String.empty_append]
      exact shown_check arguments.reference report ⟨written, printed, told⟩

/-- Notices come before the report. -/
theorem shown_tell_finish (arguments : Arguments) (report : String) (folder : Folder)
    (notices before : List Notice) :
    shown (outcome (do
        for notice in notices do
          always (environment.tell notice)
        writeReport environment arguments.out report
        match arguments.reference with
        | none => pure ()
        | some path => checkReference environment path report) ⟨folder, "", before⟩) =
      folder.finish arguments report := by
  obtain ⟨told, tells⟩ := outcome_tellAll notices ⟨folder, "", before⟩
  rw [outcome_bind, tells]
  exact shown_finish arguments report folder told

/-- **What a run gives, leaves and prints is its course.** -/
theorem shown_run (arguments : Arguments) (folder : Folder) :
    shown (Session.run arguments folder) = folder.course arguments := by
  rw [Session.run, perform_eq_outcome, Command.run, Folder.course]
  cases arguments.zones with
  | some start =>
      simp only [listZones, outcome_print, String.empty_append]
      exact rfl
  | none =>
      rw [Folder.prepare]
      cases arguments.config with
      | none => exact rfl
      | some path =>
          cases tabChoice arguments.tab with
          | error failure => exact rfl
          | ok tab =>
              obtain ⟨notices, read, ran, loaded⟩ := outcome_load path { folder := folder }
              simp only
              rw [runSetup, outcome_bind, ran, ← loaded]
              cases read with
              | error failure => exact rfl
              | ok read =>
                  simp only [Except.map, Folder.keep]
                  cases arguments.save with
                  | false => exact shown_tell_finish arguments _ folder _ notices
                  | true =>
                      simp only [if_true]
                      rw [outcome_bind, saveSetup, outcome_writeFile]
                      simp only
                      cases folder.save path (read.getD {}).text with
                      | error failure => exact rfl
                      | ok saved =>
                          simp only
                          rw [outcome_bind, outcome_tell]
                          exact shown_tell_finish arguments _ saved _ _

end Session

end ElectionReadiness.Command
