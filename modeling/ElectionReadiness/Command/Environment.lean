import ElectionReadiness.Notice

/-!
# Where the command runs

What the command needs from its surroundings: files it can read and write, a place to
print to and one to tell notices to.
-/

set_option autoImplicit false

namespace ElectionReadiness.Command

/-- Surroundings whose actions are of type `m`. -/
structure Environment (m : Type → Type) where
  /-- Something is at a path. -/
  isPresent : String → m Bool
  /-- The text of a file, none if it cannot be read as text. -/
  readText : String → m (Option String)
  /-- Makes a text the whole content of a file; false if that is not possible. -/
  writeText : String → String → m Bool
  print : String → m Unit
  tell : Notice → m Unit

end ElectionReadiness.Command
