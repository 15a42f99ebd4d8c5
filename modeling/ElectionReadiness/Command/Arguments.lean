/-!
# Arguments of the command

The command takes options with a value and flags, by a long name or some also by a
single letter.  The value of an option is joined to it or follows it; a value that
follows must not look like an option.  An option may be given again, and then its last
value counts; a flag may not.  There are no other arguments.
-/

set_option autoImplicit false

namespace ElectionReadiness.Command

/-- An option with a value. -/
inductive Setting where
  | config
  | out
  | reference
  | tab
  | zones
  deriving DecidableEq, Repr

/-- A flag. -/
inductive Flag where
  | lenientCandidateNames
  | save
  | verbose
  deriving DecidableEq, Repr

/-- What a name on the command line stands for. -/
inductive Switch where
  | setting (setting : Setting)
  | flag (flag : Flag)
  | help
  | version
  deriving DecidableEq, Repr

/-- Why arguments are not carried out. -/
inductive Refusal where
  | unknownArgument
  | emptyValue
  | tooManyValues
  | unexpectedMultipleUsage
  /-- The user asked for help instead. -/
  | displayHelp
  /-- The user asked for the version instead. -/
  | displayVersion
  deriving DecidableEq, Repr

/-- What the command is asked to do. -/
structure Arguments where
  config : Option String := none
  out : Option String := none
  reference : Option String := none
  tab : Option String := none
  zones : Option String := none
  lenientCandidateNames : Bool := false
  save : Bool := false
  verbose : Bool := false
  deriving DecidableEq, Repr

/-! ## Names -/

/-- The long names. -/
def Switch.ofName? : String → Option Switch
  | "config" => some (.setting .config)
  | "out" => some (.setting .out)
  | "reference" => some (.setting .reference)
  | "tab" => some (.setting .tab)
  | "zones" => some (.setting .zones)
  | "lenient-candidate-names" => some (.flag .lenientCandidateNames)
  | "save" => some (.flag .save)
  | "verbose" => some (.flag .verbose)
  | "help" => some .help
  | "version" => some .version
  | _ => none

/-- The names of one letter. -/
def Switch.ofLetter? : Char → Option Switch
  | 'c' => some (.setting .config)
  | 'o' => some (.setting .out)
  | 'r' => some (.setting .reference)
  | 'h' => some .help
  | 'V' => some .version
  | _ => none

/-! ## Reading arguments one by one -/

/-- Something that was given. -/
inductive Given where
  /-- An option, with its value if one came. -/
  | setting (setting : Setting) (value : Option String)
  | flag (flag : Flag)
  deriving DecidableEq, Repr

/-- What was read so far. -/
structure Reading where
  /-- What was given, in order; an option given again only counts where it was last. -/
  given : List Given := []
  /-- The option whose value must follow. -/
  waiting : Option Setting := none
  /-- Two hyphens stood alone, and no option may follow. -/
  isClosed : Bool := false
  deriving DecidableEq, Repr

namespace Reading

/-- The same option, with or without a value. -/
def isOf (setting : Setting) : Given → Bool
  | .setting other _ => other == setting
  | .flag _ => false

/-- Takes an option with its value, or one whose value must follow. -/
def withSetting (reading : Reading) (setting : Setting) (value : Option String) : Reading :=
  { reading with
    given := (reading.given.filter fun earlier => !isOf setting earlier) ++ [.setting setting value]
    waiting := if value.isNone then some setting else none }

/-- Takes a flag. -/
def withFlag (reading : Reading) (flag : Flag) : Reading :=
  { reading with given := reading.given ++ [.flag flag], waiting := none }

/-- Takes a long name, to which a value may be joined. -/
def readLong (reading : Reading) (name : String) (joined : Option String) :
    Except Refusal Reading :=
  match Switch.ofName? name, joined with
  | none, _ => .error .unknownArgument
  | some (.setting setting), _ => .ok (reading.withSetting setting joined)
  | some _, some _ => .error .tooManyValues
  | some (.flag flag), none => .ok (reading.withFlag flag)
  | some .help, none => .error .displayHelp
  | some .version, none => .error .displayVersion

/-- Takes a name of one letter, to which a value may be joined, with a sign of equality
or without. -/
def readShort (reading : Reading) : List Char → Except Refusal Reading
  | [] => .ok reading
  | letter :: joined =>
    match Switch.ofLetter? letter with
    | none => .error .unknownArgument
    | some (.setting setting) =>
      let value := match joined with
        | [] => none
        | '=' :: value => some (String.ofList value)
        | value => some (String.ofList value)
      .ok (reading.withSetting setting value)
    | some (.flag flag) => readShort (reading.withFlag flag) joined
    | some .help => .error .displayHelp
    | some .version => .error .displayVersion

/-- Takes an argument that is no option. -/
def readWord (reading : Reading) (word : String) : Except Refusal Reading :=
  match reading.waiting with
  | none => .error .unknownArgument
  | some setting => .ok (reading.withSetting setting (some word))

/-- Takes one argument. -/
def read (reading : Reading) (argument : String) : Except Refusal Reading :=
  if reading.isClosed then .error .unknownArgument
  else
    match argument.toList with
    | ['-', '-'] => .ok { reading with isClosed := true }
    | '-' :: '-' :: long =>
      match long.span (· != '=') with
      | (name, _ :: value) => reading.readLong (String.ofList name) (some (String.ofList value))
      | (name, []) => reading.readLong (String.ofList name) none
    | '-' :: letter :: joined => reading.readShort (letter :: joined)
    | _ => reading.readWord argument

end Reading

/-! ## The whole line -/

namespace Arguments

/-- The arguments with an option. -/
def withSetting (arguments : Arguments) (value : String) : Setting → Arguments
  | .config => { arguments with config := some value }
  | .out => { arguments with out := some value }
  | .reference => { arguments with reference := some value }
  | .tab => { arguments with tab := some value }
  | .zones => { arguments with zones := some value }

/-- The arguments with a flag. -/
def withFlag (arguments : Arguments) : Flag → Arguments
  | .lenientCandidateNames => { arguments with lenientCandidateNames := true }
  | .save => { arguments with save := true }
  | .verbose => { arguments with verbose := true }

/-- The arguments with something that was given, among all that was given. -/
def take (all : List Given) (arguments : Arguments) : Given → Except Refusal Arguments
  | .setting _ none => .error .emptyValue
  | .setting setting (some value) => .ok (arguments.withSetting value setting)
  | .flag flag =>
    if 1 < all.count (.flag flag) then .error .unexpectedMultipleUsage
    else .ok (arguments.withFlag flag)

/-- Reads the arguments of a command line. -/
def parse (words : List String) : Except Refusal Arguments :=
  match words.foldlM Reading.read {} with
  | .error refusal => .error refusal
  | .ok reading =>
    if reading.waiting.isSome then .error .emptyValue
    else reading.given.foldlM (take reading.given) {}

end Arguments

end ElectionReadiness.Command
