import Mathlib.Data.List.Nodup
import SignatureLint.Proofs.Lint.Restrict

/-!
# Which findings are recorded

Of a run of findings, those are recorded that are the first of their signature among the findings whose rules are
on (`Findings.violations_recordAll`). A finding of a rule that is off is as if it had not been made: it is not
recorded, and none after it is dropped for it. Signatures are compared over all rules, and what is recorded is
listed by rule; still the two go together, since the report holds each signature once
(`Findings.nodup_signatures_report`).

A `Recorder` goes about it in another way: it has a set of the signatures alone, and files each violation under its
rule as soon as it is recorded. Set and report stay in step with what is recorded (`Recorder.Keeps`).
-/

namespace SignatureLint

/-! ## First findings -/

namespace Finding

/-- A finding behind these is the first of its signature: its rule is on, and none of them whose rule is on has the
same signature. -/
def IsFirst (config : Config) (earlier : List Finding) (f : Finding) : Prop :=
  config.enables f.rule = true ∧
    ∀ g ∈ earlier, config.enables g.rule = true → g.violation.signature ≠ f.violation.signature

instance (config : Config) (earlier : List Finding) (f : Finding) : Decidable (f.IsFirst config earlier) :=
  inferInstanceAs (Decidable (config.enables f.rule = true ∧
    ∀ g ∈ earlier, config.enables g.rule = true → g.violation.signature ≠ f.violation.signature))

/-- The findings of a run that are the first of their signatures, in order. -/
def firsts (config : Config) (findings : List Finding) : List Finding :=
  (findings.zipIdx.filter fun placed => placed.1.IsFirst config (findings.take placed.2)).map Prod.fst

/-- The violation says what the finding says, and stands where the member stood, or the class if no member is named. -/
structure IsToldBy (v : Violation) (f : Finding) : Prop where
  rule : v.rule = f.rule
  severity : v.severity = f.severity
  message : v.message = f.message
  className : v.className = f.subject.fullname
  member : v.member = f.member.map Member.ident
  ofMember : ∀ m, f.member = some m → v.origin = m.origin
  ofClass : f.member = none → v.origin = f.subject.origin

theorem origin_violation (f : Finding) :
    f.violation.origin = (f.member.map Member.origin).getD f.subject.origin := rfl

theorem violation_isToldBy (f : Finding) : IsToldBy f.violation f where
  rule := rfl
  severity := rfl
  message := rfl
  className := rfl
  member := rfl
  ofMember m named := by
    rw [origin_violation, named]
    rfl
  ofClass unnamed := by
    rw [origin_violation, unnamed]
    rfl

/-- A finding at the end of a run is judged by all of the run, and nothing before it is judged by it. -/
theorem firsts_snoc (config : Config) (findings : List Finding) (f : Finding) :
    firsts config (findings ++ [f]) =
      firsts config findings ++ if f.IsFirst config findings then [f] else [] := by
  have before : ∀ placed ∈ findings.zipIdx,
      decide (placed.1.IsFirst config ((findings ++ [f]).take placed.2)) =
        decide (placed.1.IsFirst config (findings.take placed.2)) := by
    intro placed mem
    have within : placed.2 < findings.length := (List.mem_zipIdx' mem).1
    rw [List.take_append_of_le_length (Nat.le_of_lt within)]
  have last : (findings ++ [f]).take findings.length = findings := List.take_left' rfl
  rw [firsts, List.zipIdx_append, List.filter_append, List.filter_congr before, List.map_append, firsts]
  congr 1
  rw [List.zipIdx_singleton, List.filter_cons, Nat.zero_add, last]
  split
  next first => rw [if_pos (of_decide_eq_true first)]; rfl
  next later => rw [if_neg (fun first => later (decide_eq_true first))]; rfl

end Finding

/-! ## What is recorded -/

namespace Findings

variable {config : Config}

theorem recordAll_snoc (fs : Findings) (findings : List Finding) (f : Finding) :
    fs.recordAll config (findings ++ [f]) = (fs.recordAll config findings).record config f :=
  List.foldl_append

/-- The signatures that were recorded are those of the findings whose rules are on. -/
theorem hasSeen_recordAll (findings : List Finding) (signature : String) :
    (empty.recordAll config findings).hasSeen signature = true ↔
      ∃ f ∈ findings, config.enables f.rule = true ∧ f.violation.signature = signature := by
  rw [hasSeen, List.any_eq_true]
  constructor
  · rintro ⟨v, mem, same⟩
    rcases mem_recordAll mem with unlisted | ⟨f, memF, on, rfl⟩
    · cases unlisted
    · exact ⟨f, memF, on, beq_iff_eq.mp same⟩
  · rintro ⟨f, mem, on, rfl⟩
    have recorded : f.violation.signature ∈ (empty.recordAll config findings).violations.map Violation.signature :=
      signature_recordAll mem on
    obtain ⟨v, memV, same⟩ := List.mem_map.mp recorded
    exact ⟨v, memV, beq_iff_eq.mpr same⟩

/-- After a run, a finding is recorded just if it is the first of its signature. -/
theorem record_recordAll (findings : List Finding) (f : Finding) :
    ((empty.recordAll config findings).record config f).violations =
      (empty.recordAll config findings).violations ++ if f.IsFirst config findings then [f.violation] else [] := by
  have recorded : (config.enables f.rule && !(empty.recordAll config findings).hasSeen f.violation.signature) = true ↔
      f.IsFirst config findings := by
    rw [Bool.and_eq_true, Bool.not_eq_true', Bool.eq_false_iff, ne_eq, hasSeen_recordAll, Finding.IsFirst]
    refine and_congr_right fun _ => ⟨fun lacking g mem on same => lacking ⟨g, mem, on, same⟩, ?_⟩
    rintro differ ⟨g, mem, on, same⟩
    exact differ g mem on same
  rw [record]
  by_cases first : f.IsFirst config findings
  · rw [if_pos (recorded.mpr first), if_pos first]
  · rw [if_neg fun on => first (recorded.mp on), if_neg first, List.append_nil]

/-- **Of the findings whose rules are on, the first of each signature is recorded, and no other.** -/
theorem violations_recordAll (config : Config) (findings : List Finding) :
    (empty.recordAll config findings).violations = (Finding.firsts config findings).map Finding.violation := by
  induction findings using List.reverseRecOn with
  | nil => rfl
  | append_singleton findings f ih =>
    rw [recordAll_snoc, record_recordAll, ih, Finding.firsts_snoc, List.map_append]
    split <;> rfl

/-- No signature is recorded twice, whatever its rules. -/
theorem nodup_signatures_recordAll (config : Config) (findings : List Finding) :
    ((empty.recordAll config findings).violations.map Violation.signature).Nodup := by
  induction findings using List.reverseRecOn with
  | nil => exact List.nodup_nil
  | append_singleton findings f ih =>
    rw [recordAll_snoc, record_recordAll]
    split
    next first =>
      rw [List.map_append, List.map_singleton, ← List.concat_eq_append]
      refine ih.concat ?_
      intro recorded
      obtain ⟨v, mem, same⟩ := List.mem_map.mp recorded
      rcases mem_recordAll mem with unlisted | ⟨g, memG, on, rfl⟩
      · cases unlisted
      · exact first.2 g memG on same
    next =>
      rw [List.append_nil]
      exact ih

/-- What is recorded with distinct signatures is reported with distinct signatures. -/
theorem nodup_signatures_report {fs : Findings} (distinct : (fs.violations.map Violation.signature).Nodup) :
    (fs.report.violations.map Violation.signature).Nodup := by
  have listed := listed_report fs
  have ofRule {failure : String × List Violation} (mem : failure ∈ fs.report.failures.items) :
      failure.2 = fs.violations.filter fun v => v.rule = failure.1 := by
    rw [← Report.failuresOf_of_mem mem, failuresOf_report]
  rw [Report.violations, List.map_flatMap, List.nodup_flatMap]
  constructor
  · intro failure mem
    rw [ofRule mem]
    exact distinct.sublist (List.filter_sublist.map _)
  · -- a signature in two lists would be that of one violation, which is filed under one rule
    refine fs.report.failures.increasing.imp_of_mem ?_
    intro failure failure' mem mem' before signature inFirst inSecond
    obtain ⟨v, memV, rfl⟩ := List.mem_map.mp inFirst
    obtain ⟨w, memW, same⟩ := List.mem_map.mp inSecond
    have rule := listed.named failure mem v memV
    have rule' := listed.named failure' mem' w memW
    rw [ofRule mem] at memV
    rw [ofRule mem'] at memW
    have one : w = v :=
      List.inj_on_of_nodup_map distinct (List.mem_filter.mp memW).1 (List.mem_filter.mp memV).1 same
    rw [← rule, ← rule', one] at before
    exact String.lt_irrefl _ before

end Findings

/-! ## Signatures in a set of their own -/

/-- The signatures recorded so far, and the report with what was recorded. -/
structure Recorder where
  seen : WordSet
  report : Report

namespace Recorder

def start : Recorder := ⟨.empty, .empty⟩

/-- Records a finding: its signature is remembered if its rule is on, and its violation filed under its rule if the
signature was not there. -/
def record (config : Config) (k : Recorder) (f : Finding) : Recorder :=
  if config.enables f.rule then
    if k.seen.has f.violation.signature then k
    else ⟨k.seen.insert f.violation.signature, k.report.push f.violation⟩
  else k

def recordAll (config : Config) (k : Recorder) (findings : List Finding) : Recorder :=
  findings.foldl (record config) k

/-- The recorder keeps what is recorded: its set has the signatures of it, and its report lists it. -/
structure Keeps (k : Recorder) (fs : Findings) : Prop where
  seen : ∀ signature, k.seen.has signature = true ↔ fs.hasSeen signature = true
  report : k.report = fs.report

variable {config : Config} {k : Recorder} {fs : Findings}

theorem Keeps.start : Keeps .start .empty where
  seen _ := Iff.rfl
  report := rfl

theorem Keeps.record (keeps : k.Keeps fs) (f : Finding) : (k.record config f).Keeps (fs.record config f) := by
  unfold Recorder.record Findings.record
  cases config.enables f.rule with
  | false => exact keeps
  | true =>
    rw [if_pos rfl, Bool.true_and]
    by_cases seen : fs.hasSeen f.violation.signature = true
    · rw [if_pos ((keeps.seen _).mpr seen), seen]
      exact keeps
    · rw [if_neg (fun has => seen ((keeps.seen _).mp has)), Bool.eq_false_iff.mpr seen, Bool.not_false, if_pos rfl]
      constructor
      · intro signature
        rw [WordSet.has_insert, keeps.seen, Findings.hasSeen, Findings.hasSeen, List.any_append, Bool.or_eq_true,
          or_comm, List.any_cons, List.any_nil, Bool.or_false, beq_iff_eq]
        exact or_congr_right eq_comm
      · rw [Findings.report_snoc, keeps.report]

/-- **Set and report stay in step with what is recorded**, over any run of findings. -/
theorem Keeps.recordAll (keeps : k.Keeps fs) (findings : List Finding) :
    (k.recordAll config findings).Keeps (fs.recordAll config findings) := by
  induction findings generalizing k fs with
  | nil => exact keeps
  | cons f findings ih => exact ih (keeps.record f)

end Recorder

/-! ## Runs -/

/-- **What is reported of a run of findings.** Each rule has, in the order of the run, the findings of this rule that
are the first of their signatures among all findings whose rules are on; what a violation says is what its finding
says. No rule is listed without a violation or with that of another rule, and no signature is there twice. A recorder
that has the signatures in a set comes to the same report, with just the signatures of the report in its set. -/
theorem recordAll_firsts (config : Config) (findings : List Finding) :
    let report := (Findings.empty.recordAll config findings).report
    let recorder := Recorder.start.recordAll config findings
    (∀ rule, List.Forall₂ Finding.IsToldBy (report.failuresOf rule)
      ((Finding.firsts config findings).filter fun f => f.rule = rule)) ∧
      report.Listed ∧ (report.violations.map Violation.signature).Nodup ∧ recorder.report = report ∧
      ∀ signature, recorder.seen.has signature = true ↔ signature ∈ report.violations.map Violation.signature := by
  intro report recorder
  have keeps : recorder.Keeps (Findings.empty.recordAll config findings) := Recorder.Keeps.start.recordAll findings
  refine ⟨?_, Findings.listed_report _,
    Findings.nodup_signatures_report (Findings.nodup_signatures_recordAll config findings), keeps.report, ?_⟩
  · intro rule
    have listed : report.failuresOf rule =
        ((Finding.firsts config findings).filter fun f => f.rule = rule).map Finding.violation := by
      rw [Findings.failuresOf_report, Findings.violations_recordAll, List.filter_map]
      rfl
    rw [listed, List.forall₂_map_left_iff, List.forall₂_same]
    exact fun f _ => f.violation_isToldBy
  · intro signature
    rw [keeps.seen, Findings.hasSeen, List.any_eq_true, List.mem_map]
    simp only [beq_iff_eq]
    exact exists_congr fun v => and_congr_left fun _ => Findings.mem_report.symm

end SignatureLint
