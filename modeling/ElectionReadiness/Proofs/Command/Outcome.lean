import ElectionReadiness.Command.Session

/-!
# What actions do in a session

The outcome of an action in a session is what it gives and the session it leaves.  The
outcome of actions in a row is put together from theirs (`outcome_bind`), and each of the
surroundings has an outcome of its own, so a program is read one action at a time.
-/

set_option autoImplicit false

namespace ElectionReadiness.Command.Session

variable {α β : Type}

/-- What an action gives in a session, and the session it leaves. -/
def outcome (action : Action (StateM Session) α) (session : Session) :
    Except Failure α × Session := action.run.run session

theorem perform_eq_outcome (action : Action (StateM Session) α) (folder : Folder) :
    perform action folder = outcome action { folder := folder } := rfl

/-! ## Actions in a row -/

theorem outcome_pure (value : α) (session : Session) :
    outcome (pure value) session = (.ok value, session) := rfl

theorem outcome_throw (failure : Failure) (session : Session) :
    outcome (throw failure : Action (StateM Session) α) session = (.error failure, session) := rfl

/-- An action that follows is done in the session that the first leaves, unless that fails. -/
theorem outcome_bind (action : Action (StateM Session) α)
    (next : α → Action (StateM Session) β) (session : Session) :
    outcome (action >>= next) session =
      match outcome action session with
      | (.ok value, later) => outcome (next value) later
      | (.error failure, later) => (.error failure, later) := by
  have unfolded : outcome (action >>= next) session =
      (ExceptT.bindCont next (outcome action session).1).run (outcome action session).2 := rfl
  rw [unfolded]
  cases outcome action session with
  | mk result later =>
      cases result with
      | ok value => rfl
      | error failure => rfl

/-! ## The surroundings -/

theorem outcome_isPresent (path : String) (session : Session) :
    outcome (always (environment.isPresent path)) session =
      (.ok (session.folder.isPresent path), session) := rfl

theorem outcome_readText (path : String) (session : Session) :
    outcome (always (environment.readText path)) session =
      (.ok (session.folder.readText? path), session) := rfl

/-- Writing changes the folder if it succeeds, and nothing otherwise. -/
theorem outcome_writeText (path text : String) (session : Session) :
    outcome (always (environment.writeText path text)) session =
      match session.folder.write? path (.text text) with
      | none => (.ok false, session)
      | some written => (.ok true, { session with folder := written }) := by
  have ran : (environment.writeText path text).run session =
      match session.folder.write? path (.text text) with
      | none => (false, session)
      | some written => (true, { session with folder := written }) := by
    simp only [environment, StateT.run_bind, StateT.run_get, pure_bind]
    cases session.folder.write? path (.text text) with
    | none => rfl
    | some written => rfl
  have unfolded : outcome (always (environment.writeText path text)) session =
      (fun done : Bool × Session => (Except.ok done.1, done.2))
        ((environment.writeText path text).run session) := rfl
  rw [unfolded, ran]
  cases session.folder.write? path (.text text) with
  | none => rfl
  | some written => rfl

theorem outcome_tell (notice : Notice) (session : Session) :
    outcome (always (environment.tell notice)) session =
      (.ok (), { session with notices := session.notices ++ [notice] }) := rfl

/-! ## Setup files -/

/-- Saving succeeds where a file can be written, and changes nothing but the folder. -/
theorem outcome_saveSetup (path : String) (file : SetupFile) (session : Session) :
    outcome (saveSetup environment path file) session =
      match session.folder.write? path (.text file.text) with
      | none => (.error (.writing path), session)
      | some written => (.ok (), { session with folder := written }) := by
  rw [saveSetup, writeFile, outcome_bind, outcome_writeText]
  cases session.folder.write? path (.text file.text) with
  | none => exact outcome_throw (.writing path) session
  | some written => exact outcome_pure () _

/-- A file that is there and says something is read as what it says. -/
theorem outcome_readSetup (session : Session) {path text : String} {file : SetupFile}
    (present : session.folder.isPresent path = true)
    (holds : session.folder.readText? path = some text)
    (reads : SetupFile.read? text = some file) :
    outcome (readSetup environment path) session =
      (.ok (some file), { session with notices := session.notices ++ [.loaded path] }) := by
  rw [readSetup, outcome_bind, outcome_isPresent, present]
  simp only [if_true]
  rw [outcome_bind, outcome_readText, holds]
  simp only [reads]
  rw [outcome_bind, outcome_tell]
  exact outcome_pure (some file) _

end ElectionReadiness.Command.Session
