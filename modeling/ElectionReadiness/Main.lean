import ElectionReadiness.Command.Ending
import ElectionReadiness.Command.Run

/-!
# The program

The command in a terminal: its files are those of the file system, it prints to standard
output, and notices and errors go to standard error.
-/

set_option autoImplicit false

namespace ElectionReadiness.Command

/-- An action that may go wrong, none if it did. -/
def attempt {α : Type} (action : IO α) : IO (Option α) := do
  match ← action.toBaseIO with
  | .ok result => return some result
  | .error _ => return none

/-- The surroundings of a terminal. -/
def terminal : Environment IO where
  isPresent path := do return (← attempt (IO.FS.realPath path)).isSome
  readText path := attempt (IO.FS.readFile path)
  writeText path text := do return (← attempt (IO.FS.writeFile path text)).isSome
  print text := IO.print text
  tell notice := IO.eprintln notice.line

/-- Runs the command with the words of a command line. -/
def runWords (words : List String) : IO UInt32 := do
  match Arguments.parse words with
  | .error refusal =>
    match refusal.shown? with
    | some text => IO.println text
    | none => IO.eprintln refusal.message
    return UInt32.ofNat refusal.status
  | .ok arguments =>
    let outcome ← (run terminal arguments).run
    match failure? outcome with
    | some failure => IO.eprintln failure.lastWords
    | none => pure ()
    return UInt32.ofNat (status outcome)

end ElectionReadiness.Command

/-- The program. -/
def main (words : List String) : IO UInt32 := ElectionReadiness.Command.runWords words
