import SignatureLint.Dump.Index
import SignatureLint.Proofs.Lint.Report

/-!
# The diagnostics of a check

An index reads a dump from its first line to its last. A check reads the dumps it is given piece by piece, the
baselines only where a look-up asks for a class, and the rest of them when the current dump has ended. What it
reports of a dump is nevertheless what the index of that dump reports, no line less and none twice
(`check_diagnostics`).
-/

namespace SignatureLint

/-- The dumps that a check reads, in order. The baseline of the previous dump is read only beside that dump. -/
def Dumps.inOrder (dumps : Dumps) : List Dump :=
  dumps.current :: dumps.baseCurrent.toList ++
    match dumps.previous with
    | none => []
    | some previous => previous :: dumps.basePrevious.toList

/-- The diagnostics of dumps that are read one by one. -/
def indexedDiagnostics (dumps : List Dump) : List Diagnostic := dumps.flatMap fun d => d.contents.index.diagnostics

variable {config : Config}

theorem indexedDiagnostics_append (dumps later : List Dump) :
    indexedDiagnostics (dumps ++ later) = indexedDiagnostics dumps ++ indexedDiagnostics later :=
  List.flatMap_append

/-- An examination reports what is wrong with the dump, and then what is wrong with the baseline. -/
theorem diagnostics_examine (current : Dump) (base : Option Dump) (known : List ClassName) :
    (examine config current base known).diagnostics = indexedDiagnostics (current :: base.toList) := by
  rw [examine_eq_report]
  cases base with
  | none => rfl
  | some base =>
    show current.contents.diagnostics ++ base.contents.diagnostics =
      current.contents.diagnostics ++ (base.contents.diagnostics ++ [])
    rw [List.append_nil]

/-- **A check reports the diagnostics of each dump that it is given**, in order, as the dump's index has them. So
does an examination, whatever classes are known, and however little of the baseline the walk asked for. -/
theorem check_diagnostics (config : Config) :
    (∀ dumps : Dumps, (check config dumps).diagnostics = indexedDiagnostics dumps.inOrder) ∧
      ∀ (current : Dump) (base : Option Dump) (known : List ClassName),
        (examine config current base known).diagnostics = indexedDiagnostics (current :: base.toList) := by
  refine ⟨fun dumps => ?_, diagnostics_examine⟩
  cases given : dumps.previous with
  | none =>
    have alone : dumps.inOrder = dumps.current :: dumps.baseCurrent.toList := by
      rw [Dumps.inOrder, given]
      exact List.append_nil _
    rw [check, given, alone]
    exact diagnostics_examine dumps.current dumps.baseCurrent []
  | some previous =>
    have both : dumps.inOrder =
        (dumps.current :: dumps.baseCurrent.toList) ++ (previous :: dumps.basePrevious.toList) := by
      rw [Dumps.inOrder, given]
    rw [check_of_previous given, both, indexedDiagnostics_append]
    dsimp only
    rw [currentReport, earlierReport, diagnostics_examine, diagnostics_examine]

end SignatureLint
