import ElectionReadiness.Command.Folder
import ElectionReadiness.Command.Run

/-!
# Sessions

A session is a run in a folder that is kept as a value, together with what was printed
and told.
-/

set_option autoImplicit false

namespace ElectionReadiness.Command

/-- What a run leaves. -/
structure Session where
  folder : Folder := {}
  printed : String := ""
  notices : List Notice := []

namespace Session

/-- The surroundings of a session. -/
def environment : Environment (StateM Session) where
  isPresent path := do return (← get).folder.isPresent path
  readText path := do return (← get).folder.readText? path
  writeText path text := do
    match (← get).folder.write? path (.text text) with
    | none => return false
    | some folder => do
      modify fun session => { session with folder := folder }
      return true
  print text := modify fun session => { session with printed := session.printed ++ text }
  tell notice := modify fun session => { session with notices := session.notices ++ [notice] }

/-- Does an action, starting in a folder. -/
def perform {α : Type} (action : Action (StateM Session) α) (folder : Folder) :
    Except Failure α × Session :=
  (action.run).run { folder := folder }

/-- Runs the command in a folder. -/
def run (arguments : Arguments) (folder : Folder) : Except Failure Unit × Session :=
  perform (Command.run environment arguments) folder

end Session

end ElectionReadiness.Command
