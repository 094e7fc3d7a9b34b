import SignatureLint.Lint.Examination
import SignatureLint.Proofs.Pairing.Baseline

/-!
# What a report holds

A report is told by the violations in it, and the recording of findings by two facts: what is recorded is
the violation of a finding whose rule is on (`Findings.mem_recordAll`), and each such finding has its
signature recorded (`Findings.signature_recordAll`). The second is about signatures and not violations,
since of two findings with one signature the first alone is recorded. `Report.without` keeps the violations
whose signatures are new (`Report.mem_violations_without`), so all that matters of an earlier report is its
signatures and its fingerprints.
-/

namespace SignatureLint

namespace Report

variable {r earlier : Report} {v w : Violation}

/-! ## Violations -/

theorem mem_violations : v ∈ r.violations ↔ ∃ failure ∈ r.failures.items, v ∈ failure.2 := List.mem_flatMap

theorem mem_failuresOf {rule : String} (mem : v ∈ r.failuresOf rule) : v ∈ r.violations := by
  unfold failuresOf at mem
  cases found : r.failures.find? rule with
  | none =>
    rw [found] at mem
    cases mem
  | some failure =>
    rw [found] at mem
    exact mem_violations.mpr ⟨failure, (SortedBy.find?_eq_some_iff.mp found).1, mem⟩

theorem failuresOf_of_mem {failure : String × List Violation} (mem : failure ∈ r.failures.items) :
    r.failuresOf failure.1 = failure.2 := by
  rw [failuresOf, SortedBy.find?_eq_some_iff.mpr ⟨mem, rfl⟩]
  rfl

/-- A violation is added, and none is lost. -/
theorem mem_violations_push : w ∈ (r.push v).violations ↔ w = v ∨ w ∈ r.violations := by
  rw [mem_violations, push]
  constructor
  · rintro ⟨failure, mem, inFailure⟩
    rcases SortedBy.mem_insert.mp mem with rfl | ⟨mem, -⟩
    · rcases List.mem_append.mp inFailure with before | last
      · exact .inr (mem_failuresOf before)
      · exact .inl (List.mem_singleton.mp last)
    · exact .inr (mem_violations.mpr ⟨failure, mem, inFailure⟩)
  · rintro (rfl | mem)
    · exact ⟨_, SortedBy.mem_insert.mpr (.inl rfl), List.mem_concat_self⟩
    · obtain ⟨failure, mem, inFailure⟩ := mem_violations.mp mem
      by_cases same : failure.1 = v.rule
      · refine ⟨_, SortedBy.mem_insert.mpr (.inl rfl), List.mem_append_left _ ?_⟩
        rw [← same, failuresOf_of_mem mem]
        exact inFailure
      · exact ⟨failure, SortedBy.mem_insert.mpr (.inr ⟨mem, same⟩), inFailure⟩

theorem mem_violations_foldl_push {violations : List Violation} :
    v ∈ (violations.foldl push r).violations ↔ v ∈ violations ∨ v ∈ r.violations := by
  induction violations generalizing r with
  | nil => exact ⟨.inr, fun h => h.elim (fun mem => absurd mem List.not_mem_nil) id⟩
  | cons w violations ih =>
    rw [List.foldl_cons, ih, mem_violations_push, List.mem_cons, or_assoc, or_left_comm]

/-! ## What is new -/

theorem mem_newFailures {known : List String} {failures : List (String × List Violation)} :
    (∃ failure ∈ newFailures known failures, v ∈ failure.2) ↔
      (∃ failure ∈ failures, v ∈ failure.2) ∧ v.signature ∉ known := by
  have kept (vs : List Violation) :
      v ∈ vs.filter (fun w => !known.contains w.signature) ↔ v ∈ vs ∧ v.signature ∉ known := by
    simp only [List.mem_filter, Bool.not_eq_true', List.contains_eq_mem, decide_eq_false_iff_not]
  constructor
  · rintro ⟨failure, mem, inFailure⟩
    obtain ⟨before, memBefore, left⟩ := List.mem_filterMap.mp mem
    split at left
    · cases left
    · cases left
      obtain ⟨inBefore, new⟩ := (kept before.2).mp inFailure
      exact ⟨⟨before, memBefore, inBefore⟩, new⟩
  · rintro ⟨⟨failure, mem, inFailure⟩, new⟩
    have left := (kept failure.2).mpr ⟨inFailure, new⟩
    refine ⟨(failure.1, failure.2.filter fun w => !known.contains w.signature), ?_, left⟩
    refine List.mem_filterMap.mpr ⟨failure, mem, ?_⟩
    split
    next nothing =>
      rw [nothing] at left
      cases left
    next => rfl

/-- What is left is what has a new signature. -/
theorem mem_violations_without :
    v ∈ (r.without earlier).violations ↔
      v ∈ r.violations ∧ v.signature ∉ earlier.violations.map Violation.signature := by
  rw [mem_violations, mem_violations]
  exact mem_newFailures

/-- No rule is listed without a violation where a report is taken from another. -/
theorem newFailures_filled {known : List String} {failures : List (String × List Violation)}
    {failure : String × List Violation} (mem : failure ∈ newFailures known failures) : failure.2 ≠ [] := by
  obtain ⟨before, -, left⟩ := List.mem_filterMap.mp mem
  split at left
  · cases left
  next filled =>
    cases left
    exact filled

/-- Nothing is new if each signature was there before. -/
theorem failures_without_of_subset
    (known : ∀ v ∈ r.violations, v.signature ∈ earlier.violations.map Violation.signature) :
    (r.without earlier).failures = .empty := by
  apply SortedBy.ext_items
  intro failure
  refine ⟨?_, fun mem => absurd mem List.not_mem_nil⟩
  intro mem
  obtain ⟨v, inFailure⟩ := List.exists_mem_of_ne_nil _ (newFailures_filled mem)
  have left : v ∈ (r.without earlier).violations := mem_violations.mpr ⟨failure, mem, inFailure⟩
  obtain ⟨mem, new⟩ := mem_violations_without.mp left
  exact absurd (known v mem) new

/-- No class is noticed anew if the same was noticed before. -/
theorem noticed_without_of_eq (same : r.noticed = earlier.noticed) : (r.without earlier).noticed = .empty := by
  apply SortedBy.ext_items
  intro entry
  refine ⟨?_, fun mem => absurd mem List.not_mem_nil⟩
  intro mem
  obtain ⟨mem, differs⟩ := List.mem_filter.mp mem
  have found : earlier.fingerprint? entry.1 = some entry.2 := by
    rw [fingerprint?, ← same, SortedBy.find?_eq_some_iff.mpr ⟨mem, rfl⟩]
    rfl
  rw [found, bne_self_eq_false] at differs
  cases differs

end Report

namespace Findings

variable {config : Config} {fs : Findings} {v : Violation} {findings : List Finding}

theorem mem_report : v ∈ fs.report.violations ↔ v ∈ fs.violations := by
  rw [report, Report.mem_violations_foldl_push]
  exact ⟨fun h => h.elim id fun mem => absurd mem List.not_mem_nil, .inl⟩

theorem recordAll_cons (f : Finding) :
    fs.recordAll config (f :: findings) = (fs.record config f).recordAll config findings := rfl

/-- What is recorded was there or is what the finding says, and its rule is on. -/
theorem mem_record {f : Finding} (mem : v ∈ (fs.record config f).violations) :
    v ∈ fs.violations ∨ (config.enables f.rule = true ∧ v = f.violation) := by
  unfold record at mem
  split at mem
  next recorded =>
    rcases List.mem_append.mp mem with before | last
    · exact .inl before
    · exact .inr ⟨(Bool.and_eq_true_iff.mp recorded).1, List.mem_singleton.mp last⟩
  next => exact .inl mem

theorem mem_record_of_mem {f : Finding} (mem : v ∈ fs.violations) : v ∈ (fs.record config f).violations := by
  unfold record
  split
  · exact List.mem_append_left _ mem
  · exact mem

/-- The signature of a finding is recorded, with this finding or with one before it. -/
theorem signature_record {f : Finding} (on : config.enables f.rule = true) :
    f.violation.signature ∈ (fs.record config f).violations.map Violation.signature := by
  unfold record
  split
  · exact List.mem_map.mpr ⟨f.violation, List.mem_concat_self, rfl⟩
  next seen =>
    have seen : fs.hasSeen f.violation.signature = true := by
      rw [on, Bool.true_and, Bool.not_eq_true, Bool.not_eq_false'] at seen
      exact seen
    obtain ⟨w, mem, same⟩ := List.any_eq_true.mp seen
    exact List.mem_map.mpr ⟨w, mem, beq_iff_eq.mp same⟩

theorem mem_recordAll_of_mem (mem : v ∈ fs.violations) : v ∈ (fs.recordAll config findings).violations := by
  induction findings generalizing fs with
  | nil => exact mem
  | cons f findings ih => exact ih (mem_record_of_mem mem)

/-- What is recorded is what findings of rules that are on say. -/
theorem mem_recordAll (mem : v ∈ (fs.recordAll config findings).violations) :
    v ∈ fs.violations ∨ ∃ f ∈ findings, config.enables f.rule = true ∧ v = f.violation := by
  induction findings generalizing fs with
  | nil => exact .inl mem
  | cons f findings ih =>
    rcases ih mem with before | ⟨g, memG, on, same⟩
    · rcases mem_record before with before | ⟨on, same⟩
      · exact .inl before
      · exact .inr ⟨f, List.mem_cons_self, on, same⟩
    · exact .inr ⟨g, List.mem_cons_of_mem f memG, on, same⟩

/-- Each finding of a rule that is on has its signature recorded. -/
theorem signature_recordAll {f : Finding} (mem : f ∈ findings) (on : config.enables f.rule = true) :
    f.violation.signature ∈ (fs.recordAll config findings).violations.map Violation.signature := by
  induction findings generalizing fs with
  | nil => cases mem
  | cons g findings ih =>
    rcases List.mem_cons.mp mem with rfl | mem
    · have recorded : f.violation.signature ∈ (fs.record config f).violations.map Violation.signature :=
        signature_record on
      obtain ⟨w, memW, same⟩ := List.mem_map.mp recorded
      rw [← same, recordAll_cons]
      exact List.mem_map_of_mem (mem_recordAll_of_mem memW)
    · exact ih mem

end Findings

/-! ## Examinations -/

section

variable {config : Config} {current : Dump} {base : Option Dump} {known : List ClassName} {v : Violation}

/-- The walk of an examination. -/
def examinedWalk (current : Dump) (base : Option Dump) (known : List ClassName) : Walk :=
  .of current.contents.classes ((base.map Dump.contents).map Contents.classes) known

/-- **Reading on demand loses nothing**: the walk is that over whole dumps, and of both dumps all diagnostics are
reported, however far the baseline was read for the walk. -/
theorem examine_eq_report :
    examine config current base known =
      { (findingsOn config (examinedWalk current base known)).report with
        noticed := noticedIn (examinedWalk current base known)
        diagnostics := current.contents.diagnostics ++ ((base.map Dump.contents).map Contents.diagnostics).getD []
        classesWithBase := (examinedWalk current base known).classesWithBase } := by
  obtain ⟨classes, diagnostics⟩ := current.drain_stream
  obtain ⟨walked, currentEnd, baseEnd⟩ :=
    StreamWalk.of_eq current.stream ((base.map Dump.stream).getD .empty) known
  unfold examine examinedWalk
  dsimp only at walked currentEnd baseEnd ⊢
  rw [walked, currentEnd, baseEnd, classes, diagnostics]
  cases base with
  | none =>
    have ended : Stream.empty.drain = ([], (Reader.start "").finish) := by
      rw [Stream.empty, Stream.ofLines, Stream.drain_eq, Reader.feedAll]
    rw [Option.map_none, Option.getD_none, ended]
    rfl
  | some base =>
    obtain ⟨baseClasses, baseDiagnostics⟩ := base.drain_stream
    rw [Option.map_some, Option.getD_some, baseClasses, baseDiagnostics]
    rfl

theorem failures_examine :
    (examine config current base known).failures =
      (findingsOn config (examinedWalk current base known)).report.failures := by
  rw [examine_eq_report]

theorem noticed_examine :
    (examine config current base known).noticed = noticedIn (examinedWalk current base known) := by
  rw [examine_eq_report]

theorem classesWithBase_examine :
    (examine config current base known).classesWithBase = (examinedWalk current base known).classesWithBase := by
  rw [examine_eq_report]

theorem mem_violations_examine :
    v ∈ (examine config current base known).violations ↔
      v ∈ (findingsOn config (examinedWalk current base known)).violations := by
  rw [Report.violations, failures_examine]
  exact Findings.mem_report

/-- A violation that is reported is what a rule that is on finds in a view of the walk. -/
theorem found_of_mem_examine (mem : v ∈ (examine config current base known).violations) :
    ∃ view ∈ (examinedWalk current base known).views, ∃ f ∈ findingsIn config view,
      config.enables f.rule = true ∧ v = f.violation := by
  rcases Findings.mem_recordAll (mem_violations_examine.mp mem) with unlisted | ⟨f, memF, on, same⟩
  · cases unlisted
  · obtain ⟨view, memView, found⟩ := List.mem_flatMap.mp memF
    exact ⟨view, memView, f, found, on, same⟩

/-- What a rule that is on finds in a view of the walk has its signature reported. -/
theorem signature_mem_examine {view : ClassView} {f : Finding}
    (memView : view ∈ (examinedWalk current base known).views) (found : f ∈ findingsIn config view)
    (on : config.enables f.rule = true) :
    f.violation.signature ∈ (examine config current base known).violations.map Violation.signature := by
  have recorded : f.violation.signature ∈
      (findingsOn config (examinedWalk current base known)).violations.map Violation.signature :=
    Findings.signature_recordAll (List.mem_flatMap.mpr ⟨view, memView, found⟩) on
  obtain ⟨w, mem, same⟩ := List.mem_map.mp recorded
  exact List.mem_map.mpr ⟨w, mem_violations_examine.mpr mem, same⟩

end

/-! ## Checks -/

section

variable {config : Config} {dumps : Dumps} {previous : Dump}

/-- What a check finds in the current dump. -/
def currentReport (config : Config) (dumps : Dumps) : Report :=
  examine config dumps.current dumps.baseCurrent []

/-- What a check finds in the previous dump. -/
def earlierReport (config : Config) (dumps : Dumps) (previous : Dump) : Report :=
  examine config previous dumps.basePrevious (examinedWalk dumps.current dumps.baseCurrent []).classesWithBase

theorem check_of_previous (given : dumps.previous = some previous) :
    check config dumps =
      { (currentReport config dumps).without (earlierReport config dumps previous) with
        diagnostics :=
          (currentReport config dumps).diagnostics ++ (earlierReport config dumps previous).diagnostics } := by
  rw [check, given]
  dsimp only
  rw [classesWithBase_examine]
  rfl

theorem mem_violations_check (given : dumps.previous = some previous) {v : Violation} :
    v ∈ (check config dumps).violations ↔
      v ∈ (currentReport config dumps).violations ∧
        v.signature ∉ (earlierReport config dumps previous).violations.map Violation.signature := by
  rw [check_of_previous given]
  exact Report.mem_violations_without

end

end SignatureLint
