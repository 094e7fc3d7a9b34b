import SignatureLint.Proofs.Lint.Configuration

/-!
# The difference of two reports

What is new since an earlier report is told by two questions, asked of each violation and of each noticed class:
whether the earlier report lacks its signature, under any rule (`Report.Lacks`), and whether it lacks this
fingerprint of the class. The violations of each rule and those of all rules are filtered by the first
(`failuresOf_without`, `violations_without`), and the noticed classes by the second (`noticed_without`). Filters
come to the same in any order and however often they are asked, so what is new since two reports is new since both
(`without_without`).

The rules that are left with nothing are dropped. So for a report that was built by adding violations, by recording
findings and by taking differences (`Report.Built`), to list no rule is to have no violation
(`isClean_iff`).
-/

namespace SignatureLint

namespace Report

variable {r p q : Report}

/-! ## What is kept -/

/-- No violation of the report has this signature, whatever its rule. -/
def Lacks (p : Report) (v : Violation) : Prop := ∀ w ∈ p.violations, w.signature ≠ v.signature

instance (p : Report) (v : Violation) : Decidable (p.Lacks v) :=
  inferInstanceAs (Decidable (∀ w ∈ p.violations, w.signature ≠ v.signature))

theorem lacks_iff {v : Violation} : p.Lacks v ↔ v.signature ∉ p.violations.map Violation.signature := by
  rw [Lacks, List.mem_map]
  constructor
  · rintro lacks ⟨w, mem, same⟩
    exact lacks w mem same
  · intro lacking w mem same
    exact lacking ⟨w, mem, same⟩

theorem failures_without_eq : (r.without p).failures = (r.restrict fun v => p.Lacks v).failures := by
  rw [failures_without]
  simp only [lacks_iff]

/-- Each rule keeps, in order, what the earlier report lacks. -/
theorem failuresOf_without (rule : String) :
    (r.without p).failuresOf rule = (r.failuresOf rule).filter fun v => p.Lacks v := by
  rw [failuresOf, failures_without_eq]
  exact failuresOf_restrict rule

theorem filled_without : (r.without p).Filled := fun _ mem => newFailures_filled mem

/-- All rules together keep, in order, what is kept. -/
theorem flatMap_newFailures (known : List String) (failures : List (String × List Violation)) :
    (newFailures known failures).flatMap Prod.snd =
      (failures.flatMap Prod.snd).filter fun v => !known.contains v.signature := by
  induction failures with
  | nil => rfl
  | cons failure failures ih =>
    rw [List.flatMap_cons, List.filter_append, ← ih, newFailures, newFailures, List.filterMap_cons]
    cases failure.2.filter fun v => !known.contains v.signature with
    | nil => rfl
    | cons v left => rfl

theorem violations_without : (r.without p).violations = r.violations.filter fun v => p.Lacks v := by
  have new (v : Violation) : (!(p.violations.map Violation.signature).contains v.signature) = decide (p.Lacks v) := by
    rw [List.contains_eq_mem, ← decide_not, decide_eq_decide, lacks_iff]
  refine (flatMap_newFailures _ _).trans ?_
  simp only [new]
  rfl

theorem fingerprint?_eq_some_iff {className print : String} :
    p.fingerprint? className = some print ↔ (className, print) ∈ p.noticed.items := by
  rw [fingerprint?, Option.map_eq_some_iff]
  constructor
  · rintro ⟨entry, found, rfl⟩
    obtain ⟨mem, rfl⟩ := SortedBy.find?_eq_some_iff.mp found
    exact mem
  · intro mem
    exact ⟨(className, print), SortedBy.find?_eq_some_iff.mpr ⟨mem, rfl⟩, rfl⟩

/-- A class is noticed anew unless the earlier report has it with the same fingerprint. -/
theorem noticed_without : (r.without p).noticed = r.noticed.filter fun entry => entry ∉ p.noticed.items := by
  have new (entry : String × String) :
      (p.fingerprint? entry.1 != some entry.2) = decide (entry ∉ p.noticed.items) := by
    rw [Bool.eq_iff_iff, bne_iff_ne, decide_eq_true_eq, ne_eq, fingerprint?_eq_some_iff]
  rw [without]
  simp only [new]

/-! ## Differences of differences -/

theorem filter_filter_noticed {keep keep' : String × String → Bool}
    {noticed : SortedBy (Prod.fst : String × String → String)} :
    (noticed.filter keep).filter keep' = noticed.filter fun entry => keep entry && keep' entry := by
  apply SortedBy.ext_items
  intro entry
  simp only [SortedBy.filter, List.mem_filter, Bool.and_eq_true, and_assoc]

/-- **What is new since two reports** is what both lack. -/
theorem without_without :
    (r.without p).without q =
      { r with
        failures := (r.restrict fun v => p.Lacks v && q.Lacks v).failures
        noticed := r.noticed.filter fun entry => entry ∉ p.noticed.items && entry ∉ q.noticed.items } := by
  have failures : ((r.without p).without q).failures = (r.restrict fun v => p.Lacks v && q.Lacks v).failures := by
    rw [failures_without_eq, failures_restrict_congr failures_without_eq, restrict_restrict]
  have noticed : ((r.without p).without q).noticed =
      r.noticed.filter fun entry => entry ∉ p.noticed.items && entry ∉ q.noticed.items := by
    rw [noticed_without, noticed_without, filter_filter_noticed]
  rw [← failures, ← noticed]
  rfl

theorem without_eq :
    r.without p =
      { r with
        failures := (r.restrict fun v => p.Lacks v).failures
        noticed := r.noticed.filter fun entry => entry ∉ p.noticed.items } := by
  rw [← failures_without_eq, ← noticed_without]
  rfl

/-- What is new stays new. -/
theorem without_self_without : (r.without p).without p = r.without p := by
  rw [without_without, without_eq]
  simp only [Bool.and_self]

/-- Differences are taken in any order. -/
theorem without_comm : (r.without p).without q = (r.without q).without p := by
  rw [without_without, without_without]
  simp only [Bool.and_comm]

/-- Nothing is new since the report itself. -/
theorem without_self : (r.without r).failures = .empty ∧ (r.without r).noticed = .empty :=
  ⟨failures_without_of_subset fun _ mem => List.mem_map_of_mem mem, noticed_without_of_eq rfl⟩

/-! ## Reports that are built -/

/-- The reports that come about: from nothing, by adding violations, by recording findings and by taking what is
new; which classes were noticed and had counterparts, and which diagnostics there are, is put in from outside. -/
inductive Built : Report → Prop where
  | empty : Built .empty
  | push {r : Report} (v : Violation) : Built r → Built (r.push v)
  | recorded (config : Config) (findings : List Finding) : Built (Findings.empty.recordAll config findings).report
  | without {r p : Report} : Built r → Built p → Built (r.without p)
  | noting {r : Report} (noticed : SortedBy (Prod.fst : String × String → String)) (diagnostics : List Diagnostic)
      (classesWithBase : List ClassName) : Built r → Built { r with noticed, diagnostics, classesWithBase }

/-- **No report that is built lists a rule without a violation.** -/
theorem Built.filled (built : r.Built) : r.Filled := by
  induction built with
  | empty => exact filled_empty
  | push v _ ih => exact filled_push ih v
  | recorded config findings => exact Findings.filled_report _
  | without _ _ _ _ => exact filled_without
  | noting _ _ _ _ ih => exact ih

/-- To list no rule is to have no violation. -/
theorem isClean_iff (filled : r.Filled) : r.isClean = true ↔ r.violationCount = 0 := by
  rw [isClean, violationCount, List.isEmpty_iff, List.length_eq_zero_iff]
  constructor
  · intro clean
    rw [violations, clean]
    rfl
  · intro uncounted
    apply List.eq_nil_iff_forall_not_mem.mpr
    intro failure mem
    obtain ⟨v, inFailure⟩ := List.exists_mem_of_ne_nil _ (filled failure mem)
    have listed : v ∈ r.violations := mem_violations.mpr ⟨failure, mem, inFailure⟩
    rw [uncounted] at listed
    cases listed

/-- What a check reports is built. -/
theorem built_check (config : Config) (dumps : Dumps) : (check config dumps).Built := by
  have examined (current : Dump) (base : Option Dump) (known : List ClassName) :
      (examine config current base known).Built := .noting _ _ _ (.recorded config _)
  unfold check
  split
  · exact examined _ _ _
  · exact .noting _ _ _ (.without (examined _ _ _) (examined _ _ _))

end Report

/-- **The laws of differences.** The difference of two reports keeps, in order, the violations of each rule whose
signatures the earlier report has under no rule, and the noticed classes that it does not have with the same
fingerprint; it lists no rule without a violation, and leaves diagnostics and counterparts as they are. To take a
difference twice changes nothing, the order of two differences makes none, and a report has nothing new since
itself. A report that was built is clean just if its count of violations is zero. -/
theorem without_keeps_new (r p q : Report) :
    ((∀ rule, (r.without p).failuresOf rule = (r.failuresOf rule).filter fun v => p.Lacks v) ∧
      (r.without p).violations = (r.violations.filter fun v => p.Lacks v) ∧ (r.without p).Filled ∧
      (r.without p).noticed.items = (r.noticed.items.filter fun entry => entry ∉ p.noticed.items) ∧
      (r.without p).diagnostics = r.diagnostics ∧ (r.without p).classesWithBase = r.classesWithBase) ∧
    (r.without p).without p = r.without p ∧
    (r.without p).without q = (r.without q).without p ∧
    ((r.without r).violations = [] ∧ (r.without r).noticed.items = []) ∧
    (r.Built → (r.isClean = true ↔ r.violationCount = 0)) := by
  obtain ⟨noFailures, noNoticed⟩ := r.without_self
  refine ⟨⟨Report.failuresOf_without, Report.violations_without, Report.filled_without, ?_, rfl, rfl⟩,
    Report.without_self_without, Report.without_comm, ⟨?_, ?_⟩, fun built => Report.isClean_iff built.filled⟩
  · rw [Report.noticed_without]
    rfl
  · rw [Report.violations, noFailures]
    rfl
  · rw [noNoticed]
    rfl

/-- Of two violations, the one that a check without its package reports as well is not new, and the other is. -/
theorem without_keeps_new_twoPackages :
    let r := check {} twoPackages
    let p := check (Config.ignore ["q"] {}) twoPackages
    (r.without p).Built ∧ ((r.without p).isClean = true ↔ (r.without p).violationCount = 0) ∧
      (r.without p).violations.map Violation.className = ["q.BObserver"] ∧ (r.without p).isClean = false := by
  intro r p
  have built : (r.without p).Built := .without (Report.built_check _ _) (Report.built_check _ _)
  exact ⟨built, (without_keeps_new (r.without p) p p).2.2.2.2 built, by decide +kernel, by decide +kernel⟩

end SignatureLint
