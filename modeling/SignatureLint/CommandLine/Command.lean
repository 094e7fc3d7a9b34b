import SignatureLint.CommandLine.Files
import SignatureLint.CommandLine.Listing
import SignatureLint.Json.Printer

/-!
# Running a command

A command is a function of the files that it names and of what reads configurations: `Invocation.run`
answers the exit status and what is printed, and touches nothing. A file that cannot be read, or a
configuration that does not fit, ends the command with status 2.

A check ends with status 1 if it reports a violation, a parse if it reports a diagnostic; a check that
lists changed classes ends with 0. Quiet takes away all that is printed, except the list of rules, and
nothing of the status.
-/

namespace SignatureLint

/-- How a command ends, and what it prints. -/
structure Outcome where
  exit : Nat
  stdout : String
  stderr : String
deriving DecidableEq, Repr

namespace Outcome

/-- An outcome of which only the status is left. -/
def silent (exit : Nat) : Outcome := { exit, stdout := "", stderr := "" }

end Outcome

namespace Failure

/-- The outcome of a command that ended before its work. -/
def outcome (f : Failure) (output : OutputForm) (quiet : Bool) : Outcome :=
  if quiet then .silent 2
  else
    match output with
    | .text => { exit := 2, stdout := "", stderr := printLines [f.message] }
    | .json => { exit := 2, stdout := "", stderr := printLines [(Json.record [("error", .string f.message)]).compact] }

end Failure

namespace Report

/-- The outcome of a check that has made this report. -/
def outcome (r : Report) (showNoticed : Bool) (output : OutputForm) (quiet : Bool) : Outcome :=
  let exit := if showNoticed || r.isClean then 0 else 1
  if quiet then .silent exit
  else
    match output with
    | .json => { exit, stdout := printLines [r.toJson.pretty], stderr := "" }
    | .text =>
      { exit
        stdout := if showNoticed then r.displayNoticed else r.display
        stderr := printLines (r.diagnostics.map fun d => "warning: " ++ d.display) }

end Report

namespace Index

/-- The outcome of a parse that has made this index. -/
def outcome (i : Index) (output : OutputForm) (quiet : Bool) : Outcome :=
  let exit := if i.diagnostics.isEmpty then 0 else 1
  if quiet then .silent exit
  else
    match output with
    | .json => { exit, stdout := printLines [i.toJson.pretty], stderr := "" }
    | .text =>
      { exit
        stdout := i.display
        stderr := printLines (i.diagnostics.map fun d => "error: " ++ d.display) }

end Index

/-- The outcome of listing the rules. -/
def rulesOutcome (output : OutputForm) : Outcome :=
  match output with
  | .json => { exit := 0, stdout := printLines [(Json.array (allRules.map Rule.toJson)).pretty], stderr := "" }
  | .text => { exit := 0, stdout := printLines (allRules.map Rule.display), stderr := "" }

/-- Runs a command on the files, with this reader of configurations. -/
def Invocation.run (read : ConfigReader) (files : Files) (i : Invocation) : Outcome :=
  match i.command with
  | .check arguments =>
    match files.checkWith read arguments with
    | .error failure => failure.outcome i.output i.quiet
    | .ok report => report.outcome arguments.showNoticed i.output i.quiet
  | .parse file =>
    match files.dump file with
    | .error failure => failure.outcome i.output i.quiet
    | .ok dump => dump.contents.index.outcome i.output i.quiet
  | .rules => rulesOutcome i.output

end SignatureLint
