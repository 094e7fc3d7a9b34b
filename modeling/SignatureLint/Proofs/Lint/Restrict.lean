import Mathlib.Data.List.Induction
import SignatureLint.Proofs.Lint.Report

/-!
# Violations left out of a report

`Report.withoutRules` takes rules out of a report and `Report.restrict` takes out violations. A report in
which no rule stands without a violation (`Report.Filled`) is told by what it has for each rule
(`Report.failures_ext`), so both, and `Report.without`, are told by what they leave of each rule.

What is recorded can be left out before or after the recording, as long as findings with one signature are
left out together (`Findings.filter_recordAll`): of those the first alone is recorded, and it stands for all.
-/

namespace SignatureLint

namespace Report

variable {r s earlier : Report} {rule : String} {v : Violation} {keep : Violation → Bool}

/-! ## Left out of a report -/

/-- The report without some of its rules. -/
def withoutRules (rules : List String) (r : Report) : Report :=
  { r with failures := r.failures.filter fun failure => failure.1 ∉ rules }

/-- The report with only the violations that are kept. No rule that is left with none is listed. -/
def restrict (keep : Violation → Bool) (r : Report) : Report :=
  let kept : SortedBy (Prod.fst : String × List Violation → String) :=
    ⟨r.failures.items.map fun failure => (failure.1, failure.2.filter keep),
      List.pairwise_map.mpr r.failures.increasing⟩
  { r with failures := kept.filter fun failure => failure.2 ≠ [] }

/-! ## What a report has for a rule -/

/-- No rule is listed without a violation. -/
def Filled (r : Report) : Prop := ∀ failure ∈ r.failures.items, failure.2 ≠ []

theorem mem_failures_iff (filled : r.Filled) {failure : String × List Violation} :
    failure ∈ r.failures.items ↔ r.failuresOf failure.1 = failure.2 ∧ failure.2 ≠ [] := by
  refine ⟨fun mem => ⟨failuresOf_of_mem mem, filled failure mem⟩, ?_⟩
  rintro ⟨same, filled⟩
  unfold failuresOf at same
  cases found : r.failures.find? failure.1 with
  | none =>
    rw [found] at same
    exact absurd same.symm filled
  | some entry =>
    rw [found] at same
    obtain ⟨mem, name⟩ := SortedBy.find?_eq_some_iff.mp found
    rw [← @Prod.ext _ _ entry failure name same]
    exact mem

/-- What is listed is told by what there is for each rule. -/
theorem failures_ext (hr : r.Filled) (hs : s.Filled) (same : ∀ rule, r.failuresOf rule = s.failuresOf rule) :
    r.failures = s.failures := by
  apply SortedBy.ext_items
  intro failure
  rw [mem_failures_iff hr, mem_failures_iff hs, same]

theorem filled_empty : Filled .empty := fun _ mem => absurd mem List.not_mem_nil

theorem filled_push (filled : r.Filled) (v : Violation) : (r.push v).Filled := by
  intro failure mem
  rcases SortedBy.mem_insert.mp mem with rfl | ⟨mem, -⟩
  · exact List.concat_ne_nil _ _
  · exact filled failure mem

theorem failuresOf_push (r : Report) (v : Violation) (rule : String) :
    (r.push v).failuresOf rule = if rule = v.rule then r.failuresOf rule ++ [v] else r.failuresOf rule := by
  rw [failuresOf, push, SortedBy.find?_insert]
  split
  next same =>
    rw [same]
    rfl
  next => rfl

/-! ## Restrictions -/

theorem mem_failures_restrict {failure : String × List Violation} :
    failure ∈ (r.restrict keep).failures.items ↔
      (∃ before, (failure.1, before) ∈ r.failures.items ∧ before.filter keep = failure.2) ∧ failure.2 ≠ [] := by
  rw [restrict, SortedBy.filter, List.mem_filter, decide_eq_true_eq, List.mem_map]
  constructor
  · rintro ⟨⟨⟨rule, before⟩, mem, rfl⟩, filled⟩
    exact ⟨⟨before, mem, rfl⟩, filled⟩
  · rintro ⟨⟨before, mem, left⟩, filled⟩
    exact ⟨⟨(failure.1, before), mem, Prod.ext rfl left⟩, filled⟩

theorem filled_restrict : (r.restrict keep).Filled := fun _ mem => (mem_failures_restrict.mp mem).2

/-- A restriction leaves of each rule what is kept. -/
theorem failuresOf_restrict (rule : String) :
    (r.restrict keep).failuresOf rule = (r.failuresOf rule).filter keep := by
  by_cases nothing : (r.failuresOf rule).filter keep = []
  · rw [nothing, failuresOf]
    cases found : (r.restrict keep).failures.find? rule with
    | none => rfl
    | some failure =>
      obtain ⟨mem, rfl⟩ := SortedBy.find?_eq_some_iff.mp found
      obtain ⟨⟨before, listed, left⟩, filled⟩ := mem_failures_restrict.mp mem
      rw [failuresOf_of_mem listed] at nothing
      exact absurd (left.symm.trans nothing) filled
  · have listed : (rule, r.failuresOf rule) ∈ r.failures.items := by
      cases found : r.failures.find? rule with
      | none =>
        rw [failuresOf, found] at nothing
        exact absurd rfl nothing
      | some failure =>
        obtain ⟨mem, rfl⟩ := SortedBy.find?_eq_some_iff.mp found
        rw [failuresOf_of_mem mem]
        exact mem
    have kept : (rule, (r.failuresOf rule).filter keep) ∈ (r.restrict keep).failures.items :=
      mem_failures_restrict.mpr ⟨⟨_, listed, rfl⟩, nothing⟩
    exact failuresOf_of_mem kept

/-- What a restriction leaves is told by the failures alone. -/
theorem failures_restrict_congr (same : r.failures = s.failures) :
    (r.restrict keep).failures = (s.restrict keep).failures := by
  apply failures_ext filled_restrict filled_restrict
  intro rule
  rw [failuresOf_restrict, failuresOf_restrict, failuresOf, failuresOf, same]

/-- What is new since an earlier report is a restriction to the signatures that it lacks. -/
theorem failures_without :
    (r.without earlier).failures =
      (r.restrict fun v => v.signature ∉ earlier.violations.map Violation.signature).failures := by
  have new (known : List String) (v : Violation) : (!known.contains v.signature) = decide (v.signature ∉ known) := by
    rw [List.contains_eq_mem, decide_not]
  apply SortedBy.ext_items
  intro failure
  rw [mem_failures_restrict]
  refine List.mem_filterMap.trans ?_
  simp only [new]
  constructor
  · rintro ⟨before, mem, left⟩
    split at left
    · cases left
    next filled =>
      cases left
      exact ⟨⟨before.2, mem, rfl⟩, filled⟩
  · rintro ⟨⟨before, mem, left⟩, filled⟩
    refine ⟨(failure.1, before), mem, ?_⟩
    dsimp only
    rw [left]
    split
    next nothing => exact absurd nothing filled
    next => rfl

theorem restrict_restrict {keep' : Violation → Bool} :
    (r.restrict keep).restrict keep' = r.restrict fun v => keep v && keep' v := by
  have failures : ((r.restrict keep).restrict keep').failures = (r.restrict fun v => keep v && keep' v).failures := by
    apply failures_ext filled_restrict filled_restrict
    intro rule
    rw [failuresOf_restrict, failuresOf_restrict, failuresOf_restrict, List.filter_filter]
    simp only [Bool.and_comm]
  exact congrArg (fun failures => { r with failures }) failures

/-- A restriction asks of the violations of the report alone. -/
theorem restrict_congr {keep' : Violation → Bool} (same : ∀ v ∈ r.violations, keep v = keep' v) :
    r.restrict keep = r.restrict keep' := by
  have failures : (r.restrict keep).failures = (r.restrict keep').failures := by
    apply failures_ext filled_restrict filled_restrict
    intro rule
    rw [failuresOf_restrict, failuresOf_restrict]
    exact List.filter_congr fun v mem => same v (mem_failuresOf mem)
  exact congrArg (fun failures => { r with failures }) failures

/-- What is kept is told by the violations alone. -/
theorem mem_violations_restrict : v ∈ (r.restrict keep).violations ↔ v ∈ r.violations ∧ keep v = true := by
  rw [mem_violations, mem_violations]
  constructor
  · rintro ⟨failure, mem, inFailure⟩
    obtain ⟨⟨before, listed, left⟩, -⟩ := mem_failures_restrict.mp mem
    rw [← left] at inFailure
    obtain ⟨inBefore, kept⟩ := List.mem_filter.mp inFailure
    exact ⟨⟨_, listed, inBefore⟩, kept⟩
  · rintro ⟨⟨failure, listed, inFailure⟩, kept⟩
    have left : v ∈ failure.2.filter keep := List.mem_filter.mpr ⟨inFailure, kept⟩
    exact ⟨(failure.1, failure.2.filter keep),
      mem_failures_restrict.mpr ⟨⟨failure.2, listed, rfl⟩, List.ne_nil_of_mem left⟩, left⟩

/-- Every rule is listed with violations of its own, and with one at least. -/
structure Listed (r : Report) : Prop where
  filled : r.Filled
  named : ∀ failure ∈ r.failures.items, ∀ v ∈ failure.2, v.rule = failure.1

theorem Listed.congr (listed : r.Listed) (same : s.failures = r.failures) : s.Listed where
  filled failure mem := listed.filled failure (same ▸ mem)
  named failure mem := listed.named failure (same ▸ mem)

theorem Listed.restrict (listed : r.Listed) : (r.restrict keep).Listed where
  filled := filled_restrict
  named failure mem v inFailure := by
    obtain ⟨⟨before, mem, left⟩, -⟩ := mem_failures_restrict.mp mem
    rw [← left] at inFailure
    exact listed.named _ mem v (List.mem_filter.mp inFailure).1

/-- Rules are taken out with their violations. -/
theorem Listed.withoutRules_eq_restrict {rules : List String} (listed : r.Listed) :
    r.withoutRules rules = r.restrict fun v => v.rule ∉ rules := by
  have failures : (r.withoutRules rules).failures = (r.restrict fun v => v.rule ∉ rules).failures := by
    apply SortedBy.ext_items
    rintro ⟨rule, left⟩
    rw [mem_failures_restrict, withoutRules, SortedBy.filter, List.mem_filter, decide_eq_true_eq]
    dsimp only
    constructor
    · rintro ⟨mem, apart⟩
      refine ⟨⟨left, mem, List.filter_eq_self.mpr ?_⟩, listed.filled _ mem⟩
      intro v inFailure
      rw [listed.named _ mem v inFailure]
      exact decide_eq_true apart
    · rintro ⟨⟨before, mem, rfl⟩, filled⟩
      obtain ⟨v, kept⟩ := List.exists_mem_of_ne_nil _ filled
      obtain ⟨inBefore, apart⟩ := List.mem_filter.mp kept
      have same : v.rule = rule := listed.named _ mem v inBefore
      have apart : rule ∉ rules := same ▸ of_decide_eq_true apart
      have all : before.filter (fun w => w.rule ∉ rules) = before := by
        apply List.filter_eq_self.mpr
        intro w inBefore
        rw [listed.named _ mem w inBefore]
        exact decide_eq_true apart
      rw [all]
      exact ⟨mem, apart⟩
  exact congrArg (fun failures => { r with failures }) failures

/-- Of violations with one signature, all are kept or none. -/
def ToldBySignature (keep : Violation → Bool) (violations : List Violation) : Prop :=
  ∀ v ∈ violations, ∀ w ∈ violations, v.signature = w.signature → keep v = keep w

theorem ToldBySignature.mono {violations more : List Violation} (told : ToldBySignature keep more)
    (subset : violations ⊆ more) : ToldBySignature keep violations :=
  fun v memV w memW => told v (subset memV) w (subset memW)

/-- What is new is the same whether violations are left out of both reports before, or of their difference. -/
theorem without_restrict (told : ToldBySignature keep (r.violations ++ earlier.violations)) :
    (r.restrict keep).without (earlier.restrict keep) = (r.without earlier).restrict keep := by
  have failures : ((r.restrict keep).without (earlier.restrict keep)).failures =
      ((r.without earlier).restrict keep).failures := by
    rw [failures_without, failures_restrict_congr failures_without, restrict_restrict, restrict_restrict]
    refine congrArg Report.failures (restrict_congr ?_)
    intro v mem
    rw [Bool.and_comm]
    cases kept : keep v with
    | false => rw [Bool.and_false, Bool.and_false]
    | true =>
      rw [Bool.and_true, Bool.and_true, decide_eq_decide, not_iff_not, List.mem_map, List.mem_map]
      constructor
      · rintro ⟨w, memW, same⟩
        exact ⟨w, (mem_violations_restrict.mp memW).1, same⟩
      · rintro ⟨w, memW, same⟩
        have keeps : keep w = keep v :=
          told w (List.mem_append_right _ memW) v (List.mem_append_left _ mem) same
        exact ⟨w, mem_violations_restrict.mpr ⟨memW, keeps.trans kept⟩, same⟩
  exact congrArg (fun failures => { r.without earlier with failures }) failures

end Report

/-! ## What is recorded -/

namespace Findings

open Report (ToldBySignature)

variable {config : Config} {fs : Findings} {findings : List Finding} {keep : Violation → Bool}

theorem report_snoc (violations : List Violation) (v : Violation) :
    (mk (violations ++ [v])).report = (mk violations).report.push v := by
  rw [report, List.foldl_append]
  rfl

theorem filled_report (fs : Findings) : fs.report.Filled := by
  obtain ⟨violations⟩ := fs
  induction violations using List.reverseRecOn with
  | nil => exact Report.filled_empty
  | append_singleton violations v ih =>
    rw [report_snoc]
    exact Report.filled_push ih v

/-- What is recorded is listed by rule, in order. -/
theorem failuresOf_report (fs : Findings) (rule : String) :
    fs.report.failuresOf rule = fs.violations.filter fun v => v.rule = rule := by
  obtain ⟨violations⟩ := fs
  induction violations using List.reverseRecOn with
  | nil => rfl
  | append_singleton violations v ih =>
    rw [report_snoc, Report.failuresOf_push, ih, List.filter_append]
    by_cases same : v.rule = rule
    · rw [if_pos same.symm, List.filter_cons, decide_eq_true same]
      rfl
    · rw [if_neg (Ne.symm same), List.filter_cons, decide_eq_false same]
      exact (List.append_nil _).symm

theorem listed_report (fs : Findings) : fs.report.Listed where
  filled := filled_report fs
  named failure mem v inFailure := by
    rw [← Report.failuresOf_of_mem mem, failuresOf_report] at inFailure
    exact of_decide_eq_true (List.mem_filter.mp inFailure).2

/-- Violations are left out before they are listed or after. -/
theorem failures_report_filter (fs : Findings) :
    (mk (fs.violations.filter keep)).report.failures = (fs.report.restrict keep).failures := by
  apply Report.failures_ext (filled_report _) Report.filled_restrict
  intro rule
  rw [failuresOf_report, Report.failuresOf_restrict, failuresOf_report, List.filter_filter, List.filter_filter]
  simp only [Bool.and_comm]

/-- To record with rules off is to record what the other rules find. -/
theorem recordAll_eq_filter :
    fs.recordAll config findings = fs.recordAll {} (findings.filter fun f => config.enables f.rule) := by
  induction findings generalizing fs with
  | nil => rfl
  | cons f findings ih =>
    have all : Config.enables {} f.rule = true := rfl
    rw [recordAll_cons, ih]
    by_cases on : config.enables f.rule = true
    · rw [List.filter_cons, on, if_pos rfl, recordAll_cons, record, record, on, all]
    · rw [List.filter_cons, Bool.eq_false_iff.mpr on, if_neg Bool.false_ne_true, record, Bool.eq_false_iff.mpr on,
        Bool.false_and, if_neg Bool.false_ne_true]

variable {f : Finding}

theorem record_empty : fs.record {} f =
    if fs.hasSeen f.violation.signature then fs else ⟨fs.violations ++ [f.violation]⟩ := by
  rw [record, show Config.enables {} f.rule = true from rfl, Bool.true_and]
  cases fs.hasSeen f.violation.signature <;> rfl

/-- A finding that is left out records nothing that is kept. -/
theorem filter_record_of_left (left : keep f.violation = false) :
    (fs.record {} f).violations.filter keep = fs.violations.filter keep := by
  rw [record_empty]
  split
  · rfl
  · rw [List.filter_append, List.filter_cons_of_neg (Bool.eq_false_iff.mp left)]
    exact List.append_nil _

/-- A finding that is kept is recorded beside what is kept just when it is recorded beside all. -/
theorem filter_record_of_kept (kept : keep f.violation = true)
    (told : ToldBySignature keep (fs.violations ++ [f.violation])) :
    mk ((fs.record {} f).violations.filter keep) = (mk (fs.violations.filter keep)).record {} f := by
  have seen : (mk (fs.violations.filter keep)).hasSeen f.violation.signature = fs.hasSeen f.violation.signature := by
    rw [Bool.eq_iff_iff, hasSeen, hasSeen, List.any_eq_true, List.any_eq_true]
    constructor
    · rintro ⟨v, mem, same⟩
      exact ⟨v, (List.mem_filter.mp mem).1, same⟩
    · rintro ⟨v, mem, same⟩
      have keeps : keep v = keep f.violation :=
        told v (List.mem_append_left _ mem) f.violation List.mem_concat_self (beq_iff_eq.mp same)
      exact ⟨v, List.mem_filter.mpr ⟨mem, keeps.trans kept⟩, same⟩
  rw [record_empty, record_empty, seen]
  split
  · rfl
  · rw [List.filter_append, List.filter_cons_of_pos kept]
    rfl

/-- **What is recorded can be left out before or after.** -/
theorem filter_recordAll (told : ToldBySignature keep (fs.violations ++ findings.map Finding.violation)) :
    (fs.recordAll {} findings).violations.filter keep =
      ((mk (fs.violations.filter keep)).recordAll {} (findings.filter fun f => keep f.violation)).violations := by
  induction findings generalizing fs with
  | nil => rfl
  | cons f findings ih =>
    have later : (fs.record {} f).violations ++ findings.map Finding.violation ⊆
        fs.violations ++ (f :: findings).map Finding.violation := by
      intro v mem
      rcases List.mem_append.mp mem with recorded | later
      · rcases mem_record recorded with before | ⟨-, rfl⟩
        · exact List.mem_append_left _ before
        · exact List.mem_append_right _ List.mem_cons_self
      · exact List.mem_append_right _ (List.mem_cons_of_mem _ later)
    have here : fs.violations ++ [f.violation] ⊆ fs.violations ++ (f :: findings).map Finding.violation :=
      List.append_subset.mpr ⟨List.subset_append_left _ _, fun v mem =>
        List.mem_append_right _ (List.mem_singleton.mp mem ▸ List.mem_cons_self)⟩
    rw [recordAll_cons, ih (told.mono later), List.filter_cons]
    cases kept : keep f.violation with
    | true => rw [if_pos rfl, recordAll_cons, filter_record_of_kept kept (told.mono here)]
    | false => rw [if_neg Bool.false_ne_true, filter_record_of_left kept]

end Findings

end SignatureLint
