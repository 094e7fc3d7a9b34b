import SignatureLint.CommandLine.Run

/-!
# The program

Reads the files that the command line names, runs the command on them, and prints what it answers.
-/

open SignatureLint

/-- Whether `code` is the system's error `number`, which is negated where a file was not even opened. -/
private def isSystemError (number code : UInt32) : Bool := code = number || code = 0 - number

/-- Why the system could not read a file. -/
private def readError : IO.Error → ReadError
  | .noFileOrDirectory .. => .missing
  | .permissionDenied .. => .denied
  | .inappropriateType _ code _ => if isSystemError 21 code then .directory else .notDirectory
  | error@(.invalidArgument _ code _) => if isSystemError 36 code then .nameTooLong else .other (toString error)
  | error => .other (toString error)

/-- The bytes of a file, under its path. -/
private def readFile (path : String) : IO (String × Except ReadError ByteArray) := do
  try
    return (path, .ok (← IO.FS.readBinFile path))
  catch error =>
    return (path, .error (readError error))

/-- The files of a command, each read once. -/
private def readFiles (request : Request) : IO Files := do
  match request with
  | .run invocation =>
    let read ← invocation.command.paths.mapM readFile
    return fun path => (read.lookup path).getD (.error .missing)
  | _ => return fun _ => .error .missing

def main (arguments : List String) : IO UInt32 := do
  let request := Request.ofArguments arguments
  let outcome := request.outcome (← readFiles request)
  IO.print outcome.stdout
  IO.eprint outcome.stderr
  return UInt32.ofNat outcome.exit
