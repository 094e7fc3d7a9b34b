import SignatureLint.Dump.Diagnostic
import SignatureLint.Lint.Violation
import SignatureLint.SortedBy

/-!
# Reports

A report holds the violations of each rule in the order in which they were found, the fingerprint of
each class that was noticed, the diagnostics of the dumps, and the classes that had a counterpart.
`Report.without` takes from a report what an earlier one had. No rule is listed without a violation:
`push` adds one, and `without` drops the rules that it leaves with none.
-/

namespace SignatureLint

/-- What an examination found. -/
structure Report where
  /-- Each rule with its violations. -/
  failures : SortedBy (Prod.fst : String × List Violation → String)
  /-- Each class with its fingerprint. -/
  noticed : SortedBy (Prod.fst : String × String → String)
  diagnostics : List Diagnostic
  classesWithBase : List ClassName
deriving DecidableEq

namespace Report

/-- Nothing found. -/
def empty : Report := { failures := .empty, noticed := .empty, diagnostics := [], classesWithBase := [] }

/-- The violations of a rule. -/
def failuresOf (r : Report) (rule : String) : List Violation := ((r.failures.find? rule).map Prod.snd).getD []

/-- The fingerprint of a class that was noticed. -/
def fingerprint? (r : Report) (className : String) : Option String := (r.noticed.find? className).map Prod.snd

/-- The report with one more violation, the last of its rule. -/
def push (r : Report) (v : Violation) : Report :=
  { r with failures := r.failures.insert (v.rule, r.failuresOf v.rule ++ [v]) }

/-- All violations by rule. -/
def violations (r : Report) : List Violation := r.failures.items.flatMap Prod.snd

def violationCount (r : Report) : Nat := r.violations.length

def errorCount (r : Report) : Nat := r.violations.countP Violation.isError

/-- Whether no rule is broken. -/
def isClean (r : Report) : Bool := r.failures.items.isEmpty

/-- The violations that an earlier report lacks, each rule that is left with none dropped. -/
def newFailures (known : List String) (failures : List (String × List Violation)) :
    List (String × List Violation) :=
  failures.filterMap fun failure =>
    match failure.2.filter fun v => !known.contains v.signature with
    | [] => none
    | left => some (failure.1, left)

theorem newFailures_increasing {known : List String} {failures : List (String × List Violation)}
    (increasing : failures.Pairwise fun a b => a.1 < b.1) :
    (newFailures known failures).Pairwise fun a b => a.1 < b.1 := by
  refine increasing.filterMap _ fun a a' before b kept b' kept' => ?_
  split at kept
  · cases kept
  · split at kept'
    · cases kept'
    · cases kept; cases kept'; exact before

/-- What is new since an earlier report: the violations whose signatures it lacks, and the classes
that it did not notice with the same fingerprint. -/
def without (r earlier : Report) : Report :=
  { r with
    failures := ⟨newFailures (earlier.violations.map Violation.signature) r.failures.items,
      newFailures_increasing r.failures.increasing⟩
    noticed := r.noticed.filter fun entry => earlier.fingerprint? entry.1 != some entry.2 }

def toJson (r : Report) : Json :=
  .record [
    ("failures", .object (r.failures.items.map fun (rule, vs) => (rule, .array (vs.map Violation.toJson)))),
    ("noticed", .object (r.noticed.items.map fun (className, print) => (className, .string print))),
    ("diagnostics", .array (r.diagnostics.map Diagnostic.toJson)),
    ("classes_with_base", .array (r.classesWithBase.map ClassName.toJson)),
    ("summary", .record [("violations", .number r.violationCount), ("errors", .number r.errorCount),
      ("diagnostics", .number r.diagnostics.length)])]

end Report

end SignatureLint
