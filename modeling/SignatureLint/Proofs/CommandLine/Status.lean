import Mathlib.Data.Option.Basic
import SignatureLint.CommandLine.Command
import SignatureLint.Proofs.Json.Spelling
import SignatureLint.Proofs.Lint.Difference

/-!
# How commands end

A check is stopped by the first of its files that fails it (`Files.check_reports`), and else its status tells whether
its report counts a violation; the status of a parse tells whether its index has a diagnostic. What is said of the
output changes none of this, and quiet leaves nothing but the status (`Invocation.run_ends`).

What is said where a command is stopped stands here in full, file by file (`CheckArguments.troubles`): it names the
file, and says why it failed. It is printed alone, as a line of text or as an object with the one name `error`
(`TellsOf`).
-/

namespace SignatureLint

/-! ## What stops a check -/

/-- The dumps of a check, in the order in which they are read. -/
def CheckArguments.inputs (a : CheckArguments) : List String :=
  a.current :: (a.baseCurrent.toList ++ a.previous.toList ++ a.basePrevious.toList)

namespace Files

variable (read : ConfigReader) (files : Files)

/-- What is said of a dump that cannot be read. -/
def dumpTrouble? (path : String) : Option String :=
  match files.text path with
  | .ok _ => none
  | .error e => some ("could not read '" ++ path ++ "': " ++ e.message)

/-- What is said of a configuration that cannot be read, or that is none. -/
def configTrouble? (path : String) : Option String :=
  match files.text path with
  | .error e => some ("config error: could not read '" ++ path ++ "': " ++ e.message)
  | .ok text =>
    match read text with
    | .ok _ => none
    | .error reason => some ("config error: could not parse '" ++ path ++ "': " ++ reason)

end Files

/-- All that stops a check: its configuration first, then its dumps. -/
def CheckArguments.troubles (read : ConfigReader) (files : Files) (a : CheckArguments) : List String :=
  a.config.toList.filterMap (files.configTrouble? read) ++ a.inputs.filterMap files.dumpTrouble?

/-- The result fails with the first of the troubles, and there is one if there are none. -/
def Failure.Reports {α : Type} (troubles : List String) : Except Failure α → Prop
  | .ok _ => troubles = []
  | .error failure => troubles.head? = some failure.message

namespace Failure.Reports

variable {α β : Type} {troubles later : List String} {x : Except Failure α}

/-- What is done after a result fails as well where that fails. -/
theorem bind {f : α → Except Failure β} (first : Reports troubles x) (next : ∀ a, Reports later (f a)) :
    Reports (troubles ++ later) (x >>= f) := by
  cases x with
  | error failure =>
    have first : troubles.head? = some failure.message := first
    show (troubles ++ later).head? = some failure.message
    rw [List.head?_append, first]
    rfl
  | ok a =>
    have untroubled : troubles = [] := first
    rw [untroubled]
    exact next a

theorem map {f : α → β} (first : Reports troubles x) : Reports troubles (x.map f) := by
  cases x <;> exact first

end Failure.Reports

namespace Files

variable (read : ConfigReader) (files : Files)

theorem dump_reports (path : String) : Failure.Reports ([path].filterMap files.dumpTrouble?) (files.dump path) := by
  rw [List.filterMap_cons, dumpTrouble?, dump]
  cases files.text path <;> rfl

theorem dump?_reports (path : Option String) :
    Failure.Reports (path.toList.filterMap files.dumpTrouble?) (files.dump? path) := by
  cases path with
  | none => rfl
  | some path => exact (files.dump_reports path).map

theorem config_reports (path : Option String) :
    Failure.Reports (path.toList.filterMap (files.configTrouble? read)) (files.config read path) := by
  cases path with
  | none => rfl
  | some path =>
    rw [Option.toList_some, List.filterMap_cons, configTrouble?, config]
    cases files.text path with
    | error e => rfl
    | ok text =>
      dsimp only
      cases read text <;> rfl

theorem dumps_reports (a : CheckArguments) :
    Failure.Reports (a.inputs.filterMap files.dumpTrouble?) (files.dumps a) := by
  have inOrder : a.inputs.filterMap files.dumpTrouble? =
      [a.current].filterMap files.dumpTrouble? ++ (a.baseCurrent.toList.filterMap files.dumpTrouble? ++
        (a.previous.toList.filterMap files.dumpTrouble? ++
          (a.basePrevious.toList.filterMap files.dumpTrouble? ++ []))) := by
    rw [CheckArguments.inputs, ← List.singleton_append, List.append_nil]
    simp only [List.filterMap_append, List.append_assoc]
  rw [inOrder]
  refine (files.dump_reports _).bind fun current => (files.dump?_reports _).bind fun baseCurrent => ?_
  refine (files.dump?_reports _).bind fun previous => (files.dump?_reports _).bind fun basePrevious => ?_
  exact rfl

/-- **A check fails with the first of what stops it**, and has a report if nothing does. -/
theorem check_reports (a : CheckArguments) :
    Failure.Reports (a.troubles read files) (files.checkWith read a) := by
  rw [CheckArguments.troubles, ← List.append_nil (a.inputs.filterMap _)]
  exact (files.config_reports read _).bind fun config => (files.dumps_reports a).bind fun dumps => rfl

theorem exists_check_eq_error {a : CheckArguments} {first : String} {more : List String}
    (failed : a.troubles read files = first :: more) :
    ∃ failure : Failure, files.checkWith read a = .error failure ∧ failure.message = first := by
  have reports := files.check_reports read a
  rw [failed] at reports
  cases made : files.checkWith read a with
  | ok report =>
    rw [made] at reports
    cases reports
  | error failure =>
    rw [made] at reports
    exact ⟨failure, rfl, (Option.some.inj reports).symm⟩

/-! ## What a check reads -/

/-- The dump is the text of the file, under its path. -/
structure Holds (path : String) (dump : Dump) : Prop where
  name : dump.name = path
  text : files.text path = .ok dump.text

variable {files}

theorem holds_of_dump {path : String} {dump : Dump} (made : files.dump path = .ok dump) : files.Holds path dump := by
  unfold Files.dump at made
  cases text : files.text path with
  | error e =>
    rw [text] at made
    cases made
  | ok _ =>
    rw [text] at made
    cases made
    exact ⟨rfl, text⟩

theorem holds_of_dump? {path : Option String} {dump : Option Dump} (made : files.dump? path = .ok dump) :
    Option.Rel files.Holds path dump := by
  cases path with
  | none =>
    cases made
    exact .none
  | some path =>
    obtain ⟨dump, opened, rfl⟩ := map_eq_ok.mp made
    exact .some (holds_of_dump opened)

end Files

/-- What a check reads from its files: the configuration that is named, or else the default one, and its dumps. -/
structure CheckArguments.Reads (read : ConfigReader) (files : Files) (a : CheckArguments) (config : Config)
    (dumps : Dumps) : Prop where
  config : (a.config = none ∧ config = {}) ∨
    ∃ path text, a.config = some path ∧ files.text path = .ok text ∧ read text = .ok config
  current : files.Holds a.current dumps.current
  baseCurrent : Option.Rel files.Holds a.baseCurrent dumps.baseCurrent
  previous : Option.Rel files.Holds a.previous dumps.previous
  basePrevious : Option.Rel files.Holds a.basePrevious dumps.basePrevious

namespace Files

variable {read : ConfigReader} {files : Files}

theorem exists_text_of_config {path : Option String} {config : Config} (made : files.config read path = .ok config) :
    (path = none ∧ config = {}) ∨
      ∃ file text, path = some file ∧ files.text file = .ok text ∧ read text = .ok config := by
  cases path with
  | none =>
    cases made
    exact .inl ⟨rfl, rfl⟩
  | some file =>
    refine .inr ⟨file, ?_⟩
    simp only [Files.config] at made
    cases text : files.text file with
    | error e =>
      rw [text] at made
      cases made
    | ok content =>
      rw [text] at made
      dsimp only at made
      cases meant : read content with
      | error reason =>
        rw [meant] at made
        cases made
      | ok found =>
        rw [meant] at made
        cases made
        exact ⟨content, rfl, rfl, meant⟩

/-- Where nothing stops a check, it is of what its files hold. -/
theorem exists_check_eq_ok {a : CheckArguments} (untroubled : a.troubles read files = []) :
    ∃ config dumps, a.Reads read files config dumps ∧ files.checkWith read a = .ok (check config dumps) := by
  have reports := files.check_reports read a
  rw [untroubled] at reports
  cases made : files.checkWith read a with
  | error failure =>
    rw [made] at reports
    cases reports
  | ok report =>
    obtain ⟨config, configured, rest⟩ := Grammar.bind_eq_ok.mp made
    obtain ⟨dumps, gathered, checked⟩ := Grammar.bind_eq_ok.mp rest
    cases Grammar.pure_eq_ok.mp checked
    obtain ⟨current, madeCurrent, rest⟩ := Grammar.bind_eq_ok.mp gathered
    obtain ⟨baseCurrent, madeBase, rest⟩ := Grammar.bind_eq_ok.mp rest
    obtain ⟨previous, madePrevious, rest⟩ := Grammar.bind_eq_ok.mp rest
    obtain ⟨basePrevious, madeBasePrevious, rest⟩ := Grammar.bind_eq_ok.mp rest
    cases Grammar.pure_eq_ok.mp rest
    exact ⟨config, _, ⟨exists_text_of_config configured, holds_of_dump madeCurrent, holds_of_dump? madeBase,
      holds_of_dump? madePrevious, holds_of_dump? madeBasePrevious⟩, rfl⟩

end Files

/-! ## What is left of a command -/

/-- What is printed tells of the trouble and of nothing else: its text and a line end, or a JSON object on one line
that has the text under the name `error`. -/
def TellsOf (trouble printed : String) : OutputForm → Prop
  | .text => printed = trouble ++ "\n"
  | .json => ∃ written, Json.Spells written trouble.toList ∧
      printed = "\x7b\"error\":\"" ++ String.ofList written ++ "\"\x7d\n"

theorem printLines_singleton (text : String) : printLines [text] = text ++ "\n" := by
  rw [printLines, List.map_singleton, String.join, List.foldl_cons, List.foldl_nil, String.empty_append]

theorem Failure.compact_record (message : String) :
    (Json.record [("error", .string message)]).compact =
      "\x7b\"error\":\"" ++ String.ofList (message.toList.flatMap Json.escapeChar) ++ "\"\x7d" := by
  have fields : (Json.record [("error", .string message)]).compact =
      "\x7b" ++ (Json.quoted "error" ++ ":" ++ Json.quoted message) ++ "\x7d" := by
    simp only [Json.record, List.mergeSort_singleton, Json.compact, Json.compactFields, String.intercalate_singleton]
  have name : Json.quoted "error" = "\"error\"" := by decide
  rw [fields, name, Json.quoted]
  apply String.toList_inj.mp
  simp only [String.toList_append, String.toList_ofList, List.cons_append, List.append_assoc]
  rfl

/-- A failure leaves status 2 and nothing on standard output, and quiet nothing on standard error either. -/
theorem Failure.outcome_tells (f : Failure) (output : OutputForm) (quiet : Bool) :
    (f.outcome output quiet).exit = 2 ∧ (f.outcome output quiet).stdout = "" ∧
      (quiet = false → TellsOf f.message (f.outcome output quiet).stderr output) := by
  cases quiet with
  | true => exact ⟨rfl, rfl, nofun⟩
  | false =>
    cases output with
    | text => exact ⟨rfl, rfl, fun _ => printLines_singleton f.message⟩
    | json =>
      refine ⟨rfl, rfl, fun _ => ⟨_, Json.spells_escape _, ?_⟩⟩
      show printLines [(Json.record [("error", .string f.message)]).compact] = _
      rw [printLines_singleton, Failure.compact_record, String.append_assoc]
      rfl

theorem Report.exit_outcome (r : Report) (showNoticed : Bool) (output : OutputForm) (quiet : Bool) :
    (r.outcome showNoticed output quiet).exit = if showNoticed || r.isClean then 0 else 1 := by
  cases quiet <;> cases output <;> rfl

theorem Index.exit_outcome (i : Index) (output : OutputForm) (quiet : Bool) :
    (i.outcome output quiet).exit = if i.diagnostics.isEmpty then 0 else 1 := by
  cases quiet <;> cases output <;> rfl

/-- A report is clean if it counts no violation. -/
theorem Report.exit_of_built {r : Report} (built : r.Built) (showNoticed : Bool) :
    (if showNoticed || r.isClean then 0 else 1) = if showNoticed = false ∧ 0 < r.violationCount then 1 else 0 := by
  have clean := Report.isClean_iff built.filled
  cases showNoticed with
  | true => rfl
  | false =>
    cases isClean : r.isClean with
    | true => simp [clean.mp isClean]
    | false =>
      have counted : r.violationCount ≠ 0 := fun zero => by rw [clean.mpr zero] at isClean; cases isClean
      simp [Nat.pos_of_ne_zero counted]

/-! ## Commands -/

/-- How a check ends: what stops it, what is told of that, and what its status says else. -/
structure CheckArguments.Ends (read : ConfigReader) (files : Files) (a : CheckArguments) (output : OutputForm)
    (quiet : Bool) (o : Outcome) : Prop where
  stopped : o.exit = 2 ↔ a.troubles read files ≠ []
  /-- The first trouble is told of, and nothing else is printed. -/
  told : ∀ first more, a.troubles read files = first :: more →
    o.stdout = "" ∧ (quiet = false → TellsOf first o.stderr output)
  judged : a.troubles read files = [] →
    ∃ config dumps, a.Reads read files config dumps ∧
      o.exit = if a.showNoticed = false ∧ 0 < (check config dumps).violationCount then 1 else 0

/-- How a parse of the file ends. -/
structure Files.EndsParse (files : Files) (file : String) (output : OutputForm) (quiet : Bool) (o : Outcome) :
    Prop where
  stopped : o.exit = 2 ↔ ∃ e, files.text file = .error e
  told : ∀ trouble, files.dumpTrouble? file = some trouble →
    o.stdout = "" ∧ (quiet = false → TellsOf trouble o.stderr output)
  judged : ∀ text, files.text file = .ok text →
    o.exit = if ({ name := file, text } : Dump).contents.index.diagnostics = [] then 0 else 1

namespace Invocation

variable (read : ConfigReader) (files : Files) (i : Invocation)

/-- What is said of the output does not touch the status. -/
theorem exit_run (output : OutputForm) (quiet : Bool) :
    ({ i with output, quiet }.run read files).exit = (i.run read files).exit := by
  unfold run
  dsimp only
  split
  next a _ =>
    cases files.checkWith read a with
    | error failure => exact (failure.outcome_tells ..).1.trans (failure.outcome_tells ..).1.symm
    | ok report => exact (report.exit_outcome ..).trans (report.exit_outcome ..).symm
  next file _ =>
    cases files.dump file with
    | error failure => exact (failure.outcome_tells ..).1.trans (failure.outcome_tells ..).1.symm
    | ok dump => exact (dump.contents.index.exit_outcome ..).trans (dump.contents.index.exit_outcome ..).symm
  next => cases output <;> cases i.output <;> rfl

/-- Quiet leaves nothing but the status, but for the list of the rules. -/
theorem run_of_quiet (works : i.command ≠ .rules) (quiet : i.quiet = true) :
    (i.run read files).stdout = "" ∧ (i.run read files).stderr = "" := by
  unfold run
  rw [quiet]
  split
  next a _ => cases files.checkWith read a <;> exact ⟨rfl, rfl⟩
  next file _ => cases files.dump file <;> exact ⟨rfl, rfl⟩
  next rules => exact absurd rules works

theorem run_check {a : CheckArguments} (checks : i.command = .check a) :
    a.Ends read files i.output i.quiet (i.run read files) := by
  unfold run
  simp only [checks]
  cases troubles : a.troubles read files with
  | cons first more =>
    obtain ⟨failure, failed, message⟩ := files.exists_check_eq_error read troubles
    rw [failed]
    dsimp only
    obtain ⟨exit, stdout, told⟩ := failure.outcome_tells i.output i.quiet
    constructor
    case stopped => simp [exit, troubles]
    case told =>
      intro first' more' same
      rw [troubles] at same
      cases same
      exact ⟨stdout, message ▸ told⟩
    case judged =>
      intro untroubled
      rw [troubles] at untroubled
      cases untroubled
  | nil =>
    obtain ⟨config, dumps, reads, checked⟩ := Files.exists_check_eq_ok troubles
    rw [checked]
    dsimp only
    have exit := (Report.exit_outcome (check config dumps) a.showNoticed i.output i.quiet).trans
      (Report.exit_of_built (Report.built_check config dumps) a.showNoticed)
    constructor
    case stopped =>
      rw [exit, troubles]
      split <;> simp
    case told =>
      intro first more same
      rw [troubles] at same
      cases same
    case judged => exact fun _ => ⟨config, dumps, reads, exit⟩

theorem run_parse {file : String} (parses : i.command = .parse file) :
    files.EndsParse file i.output i.quiet (i.run read files) := by
  unfold run
  simp only [parses]
  unfold Files.dump
  cases text : files.text file with
  | error e =>
    dsimp only
    obtain ⟨exit, stdout, told⟩ := (Failure.dump file e).outcome_tells i.output i.quiet
    constructor
    case stopped => simp [exit, text]
    case told =>
      intro trouble same
      rw [Files.dumpTrouble?, text] at same
      cases same
      exact ⟨stdout, told⟩
    case judged =>
      intro content same
      rw [text] at same
      cases same
  | ok content =>
    dsimp only
    constructor
    case stopped =>
      rw [Index.exit_outcome, text]
      split <;> simp
    case told =>
      intro trouble same
      rw [Files.dumpTrouble?, text] at same
      cases same
    case judged =>
      intro content' same
      rw [text] at same
      cases same
      rw [Index.exit_outcome]
      cases ({ name := file, text := content } : Dump).contents.index.diagnostics <;> rfl

end Invocation

/-- How an invocation ends. -/
structure Invocation.Ends (read : ConfigReader) (files : Files) (i : Invocation) : Prop where
  /-- The status is the same whatever is said of the output. -/
  steady : ∀ output quiet, ({ i with output, quiet }.run read files).exit = (i.run read files).exit
  quiet : i.command ≠ .rules → i.quiet = true → (i.run read files).stdout = "" ∧ (i.run read files).stderr = ""
  check : ∀ a, i.command = .check a → a.Ends read files i.output i.quiet (i.run read files)
  parse : ∀ file, i.command = .parse file → files.EndsParse file i.output i.quiet (i.run read files)

/-- **The status of a check or a parse tells of its files alone**: whether they could be read, and what was found. So
it is for every invocation, whatever the reader of configurations makes of a text. -/
theorem Invocation.run_ends (read : ConfigReader) (files : Files) (i : Invocation) : i.Ends read files where
  steady := i.exit_run read files
  quiet := i.run_of_quiet read files
  check _ := i.run_check read files
  parse _ := i.run_parse read files

/-- A configuration without text, and a dump with a class in it that a rule complains of. -/
def configAndCurrent : Files := fun path =>
  if path = "lint.toml" then .ok .empty
  else if path = "current.txt" then
    .ok "package a \x7b\n  class B \x7b\n    method public void f() throws java.lang.Exception;\n  \x7d\n\x7d\n".toUTF8
  else .error .missing

/-- A reader to which no text is the default configuration. -/
def emptyReader : ConfigReader := fun text => if text = "" then .ok {} else .error "unexpected text"

/-- A check of these files. -/
def currentArguments : CheckArguments where
  current := "current.txt"
  baseCurrent := none
  previous := none
  basePrevious := none
  config := some "lint.toml"
  showNoticed := false

/-- The same check with two files more, of which there is none. -/
def missingArguments : CheckArguments :=
  { currentArguments with baseCurrent := some "base.txt", previous := some "old.txt" }

/-- Of two files that are missing the first is told of; without them the status tells of the violation. -/
theorem run_ends_missing :
    let missing :=
      ({ command := .check missingArguments, output := .text, quiet := false } : Invocation).run emptyReader
        configAndCurrent
    let found :=
      ({ command := .check currentArguments, output := .json, quiet := false } : Invocation).run emptyReader
        configAndCurrent
    missingArguments.troubles emptyReader configAndCurrent =
        ["could not read 'base.txt': No such file or directory (os error 2)",
          "could not read 'old.txt': No such file or directory (os error 2)"] ∧
      missing.exit = 2 ∧ missing.stdout = "" ∧
      missing.stderr = "could not read 'base.txt': No such file or directory (os error 2)\n" ∧
      found.exit = 1 ∧ ∃ config dumps, currentArguments.Reads emptyReader configAndCurrent config dumps ∧
        0 < (check config dumps).violationCount := by
  intro missing found
  have troubles : missingArguments.troubles emptyReader configAndCurrent =
      ["could not read 'base.txt': No such file or directory (os error 2)",
        "could not read 'old.txt': No such file or directory (os error 2)"] := by
    decide +kernel
  have untroubled : currentArguments.troubles emptyReader configAndCurrent = [] := by decide +kernel
  have exit : found.exit = 1 := by decide +kernel
  obtain ⟨stopped, told, -⟩ := (Invocation.run_ends emptyReader configAndCurrent
    { command := .check missingArguments, output := .text, quiet := false }).check _ rfl
  obtain ⟨-, -, judged⟩ := (Invocation.run_ends emptyReader configAndCurrent
    { command := .check currentArguments, output := .json, quiet := false }).check _ rfl
  obtain ⟨stdout, stderr⟩ := told _ _ troubles
  obtain ⟨config, dumps, reads, status⟩ := judged untroubled
  refine ⟨troubles, stopped.mpr (by rw [troubles]; exact List.cons_ne_nil _ _), stdout, stderr rfl, exit, config, dumps,
    reads, ?_⟩
  by_contra uncounted
  rw [if_neg fun counted => uncounted counted.2] at status
  cases exit.symm.trans status

end SignatureLint
