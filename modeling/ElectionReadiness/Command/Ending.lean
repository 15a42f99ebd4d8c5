import ElectionReadiness.Command.Arguments
import ElectionReadiness.Command.Failure

/-!
# How the command ends

The status that the command leaves, and what it says last.  It ends well after a run
without a failure and when it was only asked for help or its version.
-/

set_option autoImplicit false

namespace ElectionReadiness.Command

/-- The name and the version of the command. -/
def versionText : String := "astris-setup 0.1.0"

/-- How to use the command. -/
def helpText : String :=
  versionText ++ "\nChecks how far the setup of an election has progressed\n\n"
    ++ "USAGE:\n    astris-setup [OPTIONS]\n\nOPTIONS:\n"
    ++ "    -c, --config <CONFIG>            The file with the election setup\n"
    ++ "    -o, --out <OUT>                  Where the report is written, or stdout\n"
    ++ "    -r, --reference <REFERENCE>      A report to compare with\n"
    ++ "        --tab <TAB>                  The tab selected by the user\n"
    ++ "        --lenient-candidate-names    Do not check the names of candidates\n"
    ++ "        --save                       Save the setup file in full\n"
    ++ "        --zones <ZONES>              List the time zones that begin so\n"
    ++ "        --verbose                    Tell more\n"
    ++ "    -h, --help                       Print help\n"
    ++ "    -V, --version                    Print the version"

/-! ## Refused arguments -/

/-- The user only asked to be shown something. -/
def Refusal.shown? : Refusal → Option String
  | displayHelp => some helpText
  | displayVersion => some versionText
  | _ => none

/-- Why arguments were refused, in words. -/
def Refusal.message : Refusal → String
  | unknownArgument => "error: Found an argument which wasn't expected"
  | emptyValue => "error: An argument requires a value but none was supplied"
  | tooManyValues => "error: A value was given for an argument that takes none"
  | unexpectedMultipleUsage => "error: An argument was provided more than once"
  | displayHelp => helpText
  | displayVersion => versionText

/-- The status after arguments that are not carried out. -/
def Refusal.status (refusal : Refusal) : Nat := if refusal.shown?.isSome then 0 else 2

/-! ## Failed runs -/

/-- What the command says of a failure. -/
def Failure.lastWords (failure : Failure) : String := "An error occured: " ++ failure.message

/-- The failure of a run, if it failed. -/
def failure? {α : Type} : Except Failure α → Option Failure
  | .ok _ => none
  | .error failure => some failure

/-- The status after a run. -/
def status {α : Type} (outcome : Except Failure α) : Nat :=
  if (failure? outcome).isSome then 1 else 0

end ElectionReadiness.Command
