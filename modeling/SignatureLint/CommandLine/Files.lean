import SignatureLint.CommandLine.Invocation
import SignatureLint.Lint.Examination

/-!
# The files of a command

Which files a command reads, and why it ends if one of them cannot be read. A check reads its
configuration first, then its dumps: current, the baseline of current, previous, the baseline of
previous. The first failure is the only one that is reported (`Files.checkWith`).

What the text of a configuration file means is left to a reader of such texts (`ConfigReader`), and so is what is
said where it means nothing.
-/

namespace SignatureLint

/-- Why a file cannot be read. -/
inductive ReadError where
  | missing
  | denied
  /-- The path goes through a file as if it were a directory. -/
  | notDirectory
  | directory
  /-- The path, or a name on it, is longer than the system allows. -/
  | nameTooLong
  | notText
  /-- Any other reason, in the words of the system. -/
  | other (reason : String)
deriving DecidableEq, Repr

namespace ReadError

def message : ReadError → String
  | .missing => "No such file or directory (os error 2)"
  | .denied => "Permission denied (os error 13)"
  | .notDirectory => "Not a directory (os error 20)"
  | .directory => "Is a directory (os error 21)"
  | .nameTooLong => "File name too long (os error 36)"
  | .notText => "stream did not contain valid UTF-8"
  | .other reason => reason

end ReadError

/-- Reads the text of a configuration file: the configuration, or in the reader's own words why there is none. -/
abbrev ConfigReader := String → Except String Config

/-- A configuration file with a text that is no configuration. -/
structure UnfitConfig where
  path : String
  /-- What the reader says of the text. -/
  reason : String
deriving DecidableEq, Repr

/-- Why a command ended before its work. -/
inductive Failure where
  | dump (path : String) (error : ReadError)
  | config (path : String) (error : ReadError)
  | unfitConfig (file : UnfitConfig)
deriving DecidableEq, Repr

namespace Failure

def message : Failure → String
  | .dump path error => "could not read '" ++ path ++ "': " ++ error.message
  | .config path error => "config error: could not read '" ++ path ++ "': " ++ error.message
  | .unfitConfig file => "config error: could not parse '" ++ file.path ++ "': " ++ file.reason

end Failure

/-- The files that a command can name, by path. -/
abbrev Files := String → Except ReadError ByteArray

namespace Files

/-- The text of a file. -/
def text (files : Files) (path : String) : Except ReadError String :=
  match files path with
  | .error e => .error e
  | .ok bytes =>
    match String.fromUTF8? bytes with
    | some text => .ok text
    | none => .error .notText

/-- The dump of a file, named by its path. -/
def dump (files : Files) (path : String) : Except Failure Dump :=
  match files.text path with
  | .ok text => .ok { name := path, text }
  | .error e => .error (.dump path e)

/-- The dump of a file, if one is named. -/
def dump? (files : Files) : Option String → Except Failure (Option Dump)
  | none => .ok none
  | some path => (files.dump path).map some

/-- The configuration of a file; the default one if none is named. -/
def config (read : ConfigReader) (files : Files) : Option String → Except Failure Config
  | none => .ok {}
  | some path =>
    match files.text path with
    | .error e => .error (.config path e)
    | .ok text =>
      match read text with
      | .ok config => .ok config
      | .error reason => .error (.unfitConfig { path, reason })

/-- The dumps of a check, read in order. -/
def dumps (files : Files) (arguments : CheckArguments) : Except Failure Dumps := do
  let current ← files.dump arguments.current
  let baseCurrent ← files.dump? arguments.baseCurrent
  let previous ← files.dump? arguments.previous
  let basePrevious ← files.dump? arguments.basePrevious
  return { current, baseCurrent, previous, basePrevious }

/-- What a check finds, once its configuration and its dumps have been read. -/
def checkWith (read : ConfigReader) (files : Files) (arguments : CheckArguments) : Except Failure Report := do
  let config ← files.config read arguments.config
  let dumps ← files.dumps arguments
  return check config dumps

end Files

namespace Command

/-- The paths that a command reads, in order. -/
def paths : Command → List String
  | .check a =>
    a.config.toList ++ [a.current] ++ a.baseCurrent.toList ++ a.previous.toList ++ a.basePrevious.toList
  | .parse file => [file]
  | .rules => []

end Command

end SignatureLint
