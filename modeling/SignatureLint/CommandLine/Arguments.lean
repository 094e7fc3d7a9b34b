import SignatureLint.CommandLine.Invocation

/-!
# Arguments

The command line names a command and its files. Options are long and take their value as the next
argument or after an equals sign; an argument that starts with a hyphen and is not a hyphen alone is
never taken for a value. After two hyphens all arguments are plain. The options `--output` and
`--quiet` stand before the command or among its arguments: of two outputs the one among the arguments
counts, and quiet in either place is quiet. An option is given at most once in each place.

The reader is one that the executable brings along, so that it can be called; what a command does is said for every
`Invocation`, whatever arguments stand for it.

Arguments are read from left to right, so a wish for the version or for help is met if nothing before
it is wrong. Help can be asked for like a command, with the name of one command after it and nothing else.
-/

namespace SignatureLint

/-- Why arguments name no command. -/
inductive UsageError where
  | noCommand
  | unknownCommand (argument : String)
  | unknownOption (argument : String)
  | noValue (option : OptionName)
  /-- A value for an option that has none. -/
  | needlessValue (option : OptionName)
  | wrongValue (option : OptionName) (value : String)
  | repeated (option : OptionName)
  | noFile
  /-- An argument beyond those that the command takes. -/
  | needless (argument : String)
  /-- An option that makes sense only beside another. -/
  | requires (option other : OptionName)
deriving DecidableEq, Repr

/-- What arguments ask for. -/
inductive Request where
  | run (invocation : Invocation)
  | version
  | help
  | wrong (error : UsageError)
deriving DecidableEq, Repr

/-! ## One argument -/

/-- What an argument looks like. -/
inductive ArgumentForm where
  /-- Two hyphens alone. -/
  | endOfOptions
  /-- A long option, with the value after its equals sign. -/
  | long (name : String) (value : Option String)
  /-- The letters after one hyphen. -/
  | short (letters : List Char)
  | plain (text : String)
deriving DecidableEq, Repr

namespace ArgumentForm

/-- The form of an argument. -/
def of (argument : String) : ArgumentForm :=
  match argument.toList with
  | ['-', '-'] => .endOfOptions
  | '-' :: '-' :: rest =>
    match rest.dropWhile (· != '=') with
    | '=' :: value => .long (String.ofList (rest.takeWhile (· != '='))) (some (String.ofList value))
    | _ => .long (String.ofList rest) none
  | '-' :: c :: rest => .short (c :: rest)
  | _ => .plain argument

def isPlain : ArgumentForm → Bool
  | .plain _ => true
  | _ => false

/-- Whether help is asked for. -/
def asksHelp : ArgumentForm → Bool
  | .long name value => name = "help" && value.isNone
  | .short letters => letters.head? = some 'h'
  | _ => false

/-- Whether the version is asked for. -/
def asksVersion : ArgumentForm → Bool
  | .long name value => name = "version" && value.isNone
  | .short letters => letters.head? = some 'V'
  | _ => false

end ArgumentForm

/-! ## One place -/

/-- What was read in one place: before the command, or among its arguments. -/
structure Given where
  /-- Options with their values, in order; those that have no value have none. -/
  options : List (OptionName × Option String)
  /-- The argument without an option. -/
  file : Option String
deriving DecidableEq, Repr

namespace Given

def empty : Given := ⟨[], none⟩

def has (g : Given) (option : OptionName) : Bool := g.options.any (·.1 = option)

/-- The value of an option. -/
def value? (g : Given) (option : OptionName) : Option String := (g.options.lookup option).join

/-- Adds an option with its value, if the option may have it. -/
def addValue (g : Given) (option : OptionName) (value : String) : Except UsageError Given :=
  if option.admits value then .ok { g with options := g.options ++ [(option, some value)] }
  else .error (.wrongValue option value)

/-- Adds an option that has no value. -/
def addFlag (g : Given) (option : OptionName) : Given := { g with options := g.options ++ [(option, none)] }

/-- Adds an argument without an option: the file of a command that takes one. -/
def addPlain (command : CommandName) (g : Given) (argument : String) : Except UsageError Given :=
  if !command.takesFile || g.file.isSome then .error (.needless argument)
  else if argument = "" then .error .noFile
  else .ok { g with file := some argument }

end Given

/-- The next option with its value, and the arguments after it. -/
def readOption (command : Option CommandName) (given : Given) (name : String) (attached : Option String)
    (rest : List String) : Except UsageError (Given × List String) :=
  match (OptionName.ofText? name).filter (·.standsIn command) with
  | none => .error (.unknownOption name)
  | some option =>
    if given.has option then .error (.repeated option)
    else if option.hasValue then
      match attached, rest with
      | some value, _ => (given.addValue option value).map (·, rest)
      | none, value :: left =>
        if (ArgumentForm.of value).isPlain then (given.addValue option value).map (·, left)
        else .error (.noValue option)
      | none, [] => .error (.noValue option)
    else if attached.isSome then .error (.needlessValue option)
    else .ok (given.addFlag option, rest)

theorem length_readOption {command : Option CommandName} {given given' : Given} {name : String}
    {attached : Option String} {rest left : List String}
    (read : readOption command given name attached rest = .ok (given', left)) : left.length ≤ rest.length := by
  have mapped {α β : Type} {x : Except UsageError α} {b c : β} {a : α} (h : x.map (·, b) = .ok (a, c)) : b = c := by
    cases x <;> cases h
    rfl
  unfold readOption at read
  split at read
  · cases read
  · split at read
    · cases read
    · split at read
      · split at read
        · exact Nat.le_of_eq (congrArg List.length (mapped read).symm)
        · split at read
          · exact mapped read ▸ Nat.le_succ _
          · cases read
        · cases read
      · split at read
        · cases read
        · cases read; exact Nat.le_refl _

/-! ## Both places -/

/-- Reads the arguments of a command; answers none where help is asked for. -/
def readCommand (command : CommandName) (given : Given) (arguments : List String) :
    Except UsageError (Option Given) :=
  match arguments with
  | [] => .ok (some given)
  | argument :: rest =>
    if (ArgumentForm.of argument).asksHelp then .ok none
    else
      match ArgumentForm.of argument with
      | .endOfOptions => (rest.foldlM (Given.addPlain command) given).map some
      | .plain text =>
        match given.addPlain command text with
        | .error e => .error e
        | .ok given => readCommand command given rest
      | .short _ => .error (.unknownOption argument)
      | .long name attached =>
        match _read : readOption (some command) given name attached rest with
        | .error e => .error e
        | .ok (given, left) => readCommand command given left
termination_by arguments.length
decreasing_by
  · simp
  · have := length_readOption _read
    simp only [List.length_cons]; omega

/-- How the reading of the arguments before the command ends. -/
inductive Ending where
  /-- Nothing is left. -/
  | all
  /-- A command, and the arguments after it. -/
  | command (name : CommandName) (rest : List String)
  | version
  | help

/-- Reads what help is asked for: the program, one of its commands, or help itself. -/
def readTopic : List String → Except UsageError Unit
  | [] => .ok ()
  | topic :: rest =>
    if topic != "help" && (CommandName.ofText? topic).isNone then .error (.unknownCommand topic)
    else
      match rest with
      | [] => .ok ()
      | next :: _ => .error (.unknownCommand next)

/-- Reads the arguments before the command, and the command. -/
def readBefore (given : Given) (arguments : List String) : Except UsageError (Given × Ending) :=
  match arguments with
  | [] => .ok (given, .all)
  | argument :: rest =>
    if (ArgumentForm.of argument).asksVersion then .ok (given, .version)
    else if (ArgumentForm.of argument).asksHelp then .ok (given, .help)
    else
      match ArgumentForm.of argument with
      | .endOfOptions =>
        match rest with
        | [] => .ok (given, .all)
        | next :: _ => .error (.unknownCommand next)
      | .plain text =>
        match CommandName.ofText? text with
        | some name => .ok (given, .command name rest)
        | none =>
          if text = "help" then (readTopic rest).map fun _ => (given, .help) else .error (.unknownCommand text)
      | .short _ => .error (.unknownOption argument)
      | .long name attached =>
        match _read : readOption none given name attached rest with
        | .error e => .error e
        | .ok (given, left) => readBefore given left
termination_by arguments.length
decreasing_by
  have := length_readOption _read
  simp only [List.length_cons]; omega

/-- The command of a name with what was given for it. -/
def commandOf (name : CommandName) (given : Given) : Except UsageError Command :=
  match name, given.file with
  | .rules, _ => .ok .rules
  | _, none => .error .noFile
  | .parse, some file => .ok (.parse file)
  | .check, some file =>
    if given.has .basePrevious && !given.has .previous then .error (.requires .basePrevious .previous)
    else .ok (.check {
      current := file
      baseCurrent := given.value? .baseCurrent
      previous := given.value? .previous
      basePrevious := given.value? .basePrevious
      config := given.value? .config
      showNoticed := given.has .showNoticed })

/-- The form of output that was asked for, the later place first. -/
def outputOf (before after : Given) : OutputForm :=
  (((after.value? .output).or (before.value? .output)).bind OutputForm.ofText?).getD .text

namespace Request

/-- What the arguments ask for. -/
def ofArguments (arguments : List String) : Request :=
  match readBefore .empty arguments with
  | .error e => .wrong e
  | .ok (_, .all) => .wrong .noCommand
  | .ok (_, .version) => .version
  | .ok (_, .help) => .help
  | .ok (before, .command name rest) =>
    match readCommand name .empty rest with
    | .error e => .wrong e
    | .ok none => .help
    | .ok (some after) =>
      match commandOf name after with
      | .error e => .wrong e
      | .ok command =>
        .run { command, output := outputOf before after, quiet := before.has .quiet || after.has .quiet }

end Request

end SignatureLint
