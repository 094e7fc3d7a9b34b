/-!
# Commands and options

What the program can be told to do: the commands, the options that stand beside them, and an
`Invocation`, a command with everything that it needs to run.
-/

namespace SignatureLint

/-- The form of what a command prints. -/
inductive OutputForm where
  | text
  | json
deriving DecidableEq, Repr

namespace OutputForm

/-- The form of that name. -/
def ofText? : String → Option OutputForm
  | "text" => some .text
  | "json" => some .json
  | _ => none

end OutputForm

/-- The files of a check. -/
structure CheckArguments where
  current : String
  baseCurrent : Option String
  previous : Option String
  basePrevious : Option String
  config : Option String
  /-- Whether to list the classes that changed instead of the violations. -/
  showNoticed : Bool
deriving DecidableEq, Repr

/-- What is to be done. -/
inductive Command where
  | check (arguments : CheckArguments)
  | parse (file : String)
  | rules
deriving DecidableEq, Repr

/-- A command and how its answer is printed. -/
structure Invocation where
  command : Command
  output : OutputForm
  quiet : Bool
deriving DecidableEq, Repr

/-! ## Names -/

/-- The commands by name. -/
inductive CommandName where
  | check
  | parse
  | rules
deriving DecidableEq, Repr

namespace CommandName

def text : CommandName → String
  | .check => "check"
  | .parse => "parse"
  | .rules => "rules"

def all : List CommandName := [.check, .parse, .rules]

def ofText? (text : String) : Option CommandName := all.find? (·.text = text)

/-- Whether a command is given a file without an option. -/
def takesFile : CommandName → Bool
  | .rules => false
  | _ => true

end CommandName

/-- The options. -/
inductive OptionName where
  | output
  | quiet
  | baseCurrent
  | previous
  | basePrevious
  | config
  | showNoticed
deriving DecidableEq, Repr

namespace OptionName

/-- The option as it is written, after its two hyphens. -/
def text : OptionName → String
  | .output => "output"
  | .quiet => "quiet"
  | .baseCurrent => "base-current"
  | .previous => "previous"
  | .basePrevious => "base-previous"
  | .config => "config"
  | .showNoticed => "show-noticed"

def all : List OptionName := [.output, .quiet, .baseCurrent, .previous, .basePrevious, .config, .showNoticed]

def ofText? (text : String) : Option OptionName := all.find? (·.text = text)

/-- Whether a value belongs to the option. -/
def hasValue : OptionName → Bool
  | .quiet | .showNoticed => false
  | _ => true

/-- Whether the option may have the value: an output form is known, and a file has a name. -/
def admits : OptionName → String → Bool
  | .output, value => (OutputForm.ofText? value).isSome
  | _, value => value != ""

/-- Whether the option may stand among the arguments of a command, or before the command where none
is named. -/
def standsIn (option : OptionName) (command : Option CommandName) : Bool :=
  match option with
  | .output | .quiet => true
  | _ => command = some .check

end OptionName

end SignatureLint
