/-!
# The phases of an election

An election runs through four phases, one after the other.  Each has a key, by
which files name it, and a title for messages.
-/

set_option autoImplicit false

namespace ElectionReadiness

/-- A phase of an election. -/
inductive Phase where
  /-- The trustees confirm the parameters and publish their keys. -/
  | parameterConfirmation
  | voterRegistration
  | voteCasting
  /-- The trustees decrypt the tally together. -/
  | tallyDecryption
  deriving DecidableEq, Repr

namespace Phase

/-- The phases in the order they happen. -/
def all : List Phase :=
  [parameterConfirmation, voterRegistration, voteCasting, tallyDecryption]

/-- The name of the phase in files. -/
def key : Phase → String
  | parameterConfirmation => "parameterConfirmation"
  | voterRegistration => "voterRegistration"
  | voteCasting => "voteCasting"
  | tallyDecryption => "tallyDecryption"

/-- The name of the phase in messages. -/
def title : Phase → String
  | parameterConfirmation => "trustee confirmation"
  | voterRegistration => "voter registration"
  | voteCasting => "vote casting"
  | tallyDecryption => "trustee tallying"

/-- The phase with a key. -/
def ofKey? (key : String) : Option Phase := all.find? fun phase => phase.key == key

theorem mem_all (phase : Phase) : phase ∈ all := by cases phase <;> decide

end Phase

end ElectionReadiness
