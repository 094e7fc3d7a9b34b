import SignatureLint.Dump.Counter
import SignatureLint.Lint.Fingerprint
import SignatureLint.Lint.Rules.Callbacks
import SignatureLint.Lint.Rules.Constants
import SignatureLint.Lint.Rules.Equality
import SignatureLint.Lint.Rules.Exceptions
import SignatureLint.Lint.Rules.Parcelable
import SignatureLint.Pairing.Baseline

/-!
# Examining a dump

`examine` visits the classes of a dump beside its baseline and checks each against the rules that are
on. Every class that is visited is noticed with its fingerprint, also in a package that is not
examined. `check` examines a current dump and, if there is one, a previous dump, and reports what is
new. The previous dump is examined with the classes that had a counterpart in the first examination as
known classes, so that both judge a class by the same members of the baseline.

`check?` is the check of a program whose counter of lines has 32 bits. It reads each dump as `Dump.contents?` does,
and has no report where one of them makes it panic.
-/

namespace SignatureLint

/-- All rules, in the order in which they check a class. -/
def allRules : List Rule :=
  [Rules.parcelable, Rules.constants, Rules.exceptions, Rules.equality, Rules.callbacks]

/-- The rules of which some finding can be recorded. -/
def enabledRules (config : Config) : List Rule := allRules.filter (Rule.isEnabled config)

/-- What the rules that are on find in a class; nothing in a package that is not examined. -/
def findingsIn (config : Config) (v : ClassView) : List Finding :=
  if config.ignores v.own.package then [] else (enabledRules config).flatMap (·.check v)

/-- The classes of a walk with their fingerprints; of two with one full name the later stays. -/
def noticedIn (w : Walk) : SortedBy (Prod.fst : String × String → String) :=
  .ofList (w.views.map fun v => (v.own.fullname, v.own.fingerprint))

/-- What the rules find on a walk. -/
def findingsOn (config : Config) (w : Walk) : Findings :=
  Findings.empty.recordAll config (w.views.flatMap (findingsIn config))

/-- Examines a dump beside its baseline, with the classes known to be in the baseline. The baseline is read as far
as the walk asks for its classes, and the rest of it at the end, for its diagnostics alone. -/
def examine (config : Config) (current : Dump) (base : Option Dump) (known : List ClassName) : Report :=
  let done := StreamWalk.of current.stream ((base.map Dump.stream).getD .empty) known
  { (findingsOn config done.walk).report with
    noticed := noticedIn done.walk
    diagnostics := done.current.reader.diagnostics ++ done.base.stream.drain.2.diagnostics
    classesWithBase := done.walk.classesWithBase }

/-- The dumps of a check: a current one, a previous one, and a baseline for each. -/
structure Dumps where
  current : Dump
  baseCurrent : Option Dump
  previous : Option Dump
  basePrevious : Option Dump
deriving DecidableEq, Repr

/-- What is new in the current dump since the previous one. -/
def check (config : Config) (dumps : Dumps) : Report :=
  let report := examine config dumps.current dumps.baseCurrent []
  match dumps.previous with
  | none => report
  | some previous =>
    let earlier := examine config previous dumps.basePrevious report.classesWithBase
    let new := report.without earlier
    { new with diagnostics := new.diagnostics ++ earlier.diagnostics }

/-! ## With a counter of 32 bits -/

/-- Examines what a dump declares beside what its baseline declares. -/
def examineContents (config : Config) (current : Contents) (base : Option Contents) (known : List ClassName) :
    Report :=
  let walk := Walk.of current.classes (base.map Contents.classes) known
  { (findingsOn config walk).report with
    noticed := noticedIn walk
    diagnostics := current.diagnostics ++ (base.map Contents.diagnostics).getD []
    classesWithBase := walk.classesWithBase }

/-- The report on a dump, and on its baseline if there is one; none where the program panics over one of them. -/
def examine? (o : Overflow) (config : Config) (current : Dump) (base : Option Dump) (known : List ClassName) :
    Option Report := do
  let contents ← current.contents? o
  let baseContents ← base.mapM (Dump.contents? o)
  return examineContents config contents baseContents known

/-- What is new in the current dump since the previous one. -/
def check? (o : Overflow) (config : Config) (dumps : Dumps) : Option Report := do
  let report ← examine? o config dumps.current dumps.baseCurrent []
  match dumps.previous with
  | none => return report
  | some previous =>
    let earlier ← examine? o config previous dumps.basePrevious report.classesWithBase
    let new := report.without earlier
    return { new with diagnostics := new.diagnostics ++ earlier.diagnostics }

end SignatureLint
