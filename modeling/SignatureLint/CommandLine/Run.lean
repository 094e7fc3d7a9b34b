import SignatureLint.CommandLine.Arguments
import SignatureLint.CommandLine.Command
import SignatureLint.Lint.ConfigFile

/-!
# The whole command line

What the program makes of its arguments. It brings readers of its own along for arguments (`Request.ofArguments`) and
for configurations (`Config.ofToml?`), which stand here in the place of any others: what a command does is
`Invocation.run`, for every invocation and every reader of configurations.
-/

namespace SignatureLint

/-- The reader of configurations that the program brings along. It says nothing of a text that it cannot read. -/
def Config.read : ConfigReader := fun text =>
  match ofToml? text with
  | some config => .ok config
  | none => .error ""

/-- What a check finds, with the program's own reader of configurations. -/
def Files.check (files : Files) (arguments : CheckArguments) : Except Failure Report :=
  files.checkWith Config.read arguments

/-- What the program is called, and its version. -/
def versionLine : String := "apilint 0.1.0"

/-- Does what was asked for. The wording of help and of what is wrong with arguments is left open. -/
def Request.outcome (files : Files) : Request → Outcome
  | .run invocation => invocation.run Config.read files
  | .version => { exit := 0, stdout := printLines [versionLine], stderr := "" }
  | .help => .silent 0
  | .wrong _ => .silent 2

end SignatureLint
