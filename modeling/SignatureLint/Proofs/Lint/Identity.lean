import SignatureLint.Proofs.Lint.Configuration

/-!
# When two violations are one

A violation of the current dump is taken for one of the previous dump, or for one recorded before it, if the two
have one signature. They have it just if they are about classes of one full name, under one rule, with one message,
and on members whose identities differ in blanks at most; to name no member is to name one without an identity
(`signature_eq_iff`). The text of a member can hold whatever its line holds, colons too: it stands between parts
that are told by themselves, the name of the class before it and the rule and the message behind it.

This is said of all that the rules can find in classes of dumps (`Pass`), in whatever order they are asked and
whatever stands beside the classes. An examination is such a pass (`Pass.failures_examining`).
-/

namespace SignatureLint

/-! ## Passes -/

/-- A pass asks rules about classes of dumps, one after the other, and records what they find. What stands beside a
class is open. -/
structure Pass where
  config : Config
  /-- The rules in the order in which they are asked, each with what it is asked about. -/
  asked : List (Rule × ClassView)
  listed : ∀ question ∈ asked, question.1 ∈ allRules
  declared : ∀ question ∈ asked, ∃ file texts, question.2.own ∈ (Stream.ofLines file texts).drain.1

namespace Pass

/-- What is reported of all that the rules find. -/
def report (p : Pass) : Report :=
  (Findings.empty.recordAll p.config (p.asked.flatMap fun question => question.1.check question.2)).report

/-- A violation of a pass records what a rule finds in a class of a dump. -/
theorem exists_of_mem_report {p : Pass} {v : Violation} (mem : v ∈ p.report.violations) :
    ∃ r ∈ allRules, ∃ view f, Finding.FoundBy r view f ∧ Token.IsSpelled f.subject.fullname ∧ v = f.violation := by
  rcases Findings.mem_recordAll (Findings.mem_report.mp mem) with unlisted | ⟨f, memF, -, same⟩
  · cases unlisted
  · obtain ⟨⟨r, view⟩, asked, found⟩ := List.mem_flatMap.mp memF
    have foundBy := foundBy_of_mem_check (p.listed _ asked) found
    obtain ⟨file, texts, declared⟩ := p.declared _ asked
    refine ⟨r, p.listed _ asked, view, f, foundBy, ?_, same⟩
    rw [foundBy.subject]
    exact isSpelled_of_mem_drain declared

section

variable (config : Config) (current : Dump) (base : Option Dump) (known : List ClassName)

/-- The rules that an examination asks about a class: those that are on, and none in a package that is not
examined. -/
def questions (config : Config) (v : ClassView) : List (Rule × ClassView) :=
  if config.ignores v.own.package then [] else (enabledRules config).map fun r => (r, v)

theorem mem_questions {v : ClassView} {question : Rule × ClassView} (mem : question ∈ questions config v) :
    question.1 ∈ allRules ∧ question.2 = v := by
  unfold questions at mem
  split at mem
  · cases mem
  · obtain ⟨r, enabled, rfl⟩ := List.mem_map.mp mem
    exact ⟨(List.mem_filter.mp enabled).1, rfl⟩

theorem flatMap_questions (v : ClassView) :
    ((questions config v).flatMap fun question => question.1.check question.2) = findingsIn config v := by
  unfold questions findingsIn
  split
  · rfl
  · rw [List.flatMap_map]

/-- The pass of an examination. -/
def examining : Pass where
  config := config
  asked := (examinedWalk current base known).views.flatMap (questions config)
  listed question mem := by
    obtain ⟨v, -, here⟩ := List.mem_flatMap.mp mem
    exact (mem_questions config here).1
  declared question mem := by
    obtain ⟨v, memV, here⟩ := List.mem_flatMap.mp mem
    obtain ⟨d, -, declared⟩ := own_mem_of_mem_views memV
    rw [← d.drain_stream.1] at declared
    exact ⟨d.name, Text.lines d.text, (mem_questions config here).2 ▸ declared⟩

/-- **An examination is a pass**: it reports what the pass reports. -/
theorem failures_examining :
    (examining config current base known).report.failures = (examine config current base known).failures := by
  rw [failures_examine, report, findingsOn, examining, List.flatMap_assoc]
  simp only [flatMap_questions]

theorem violations_examining :
    (examining config current base known).report.violations = (examine config current base known).violations := by
  rw [Report.violations, failures_examining, Report.violations]

end

end Pass

/-! ## Signatures -/

/-- **One signature, one finding.** Every examination is a pass of rules over classes of dumps. Violations of two
passes, or of one, have the same signature just if they agree on the full name of the class, the rule, the message,
and the identity of the member but for blanks. -/
theorem signature_eq_iff :
    (∀ config current base known, ∃ p : Pass, p.report.failures = (examine config current base known).failures) ∧
    ∀ p q : Pass, ∀ v ∈ p.report.violations, ∀ w ∈ q.report.violations,
      (v.signature = w.signature ↔
        v.className = w.className ∧ v.rule = w.rule ∧ v.message = w.message ∧ v.memberText = w.memberText) := by
  refine ⟨fun config current base known => ⟨_, Pass.failures_examining config current base known⟩, ?_⟩
  intro p q v memV w memW
  obtain ⟨r, listed, view, f, found, spelled, rfl⟩ := Pass.exists_of_mem_report memV
  obtain ⟨s, listed', view', g, found', spelled', rfl⟩ := Pass.exists_of_mem_report memW
  constructor
  · intro same
    obtain ⟨before, rule, message⟩ := parts_of_signature listed listed' found found' same
    have className : f.subject.fullname = g.subject.fullname := className_eq_of_signature spelled spelled' same
    rw [className] at before
    exact ⟨className, rule, message, (List.cons.inj (List.append_cancel_left before)).2⟩
  · rintro ⟨className, rule, message, member⟩
    apply String.toList_inj.mp
    rw [Violation.toList_signature, Violation.toList_signature, className, rule, message, member]

/-- What a violation says, but for where it stood. -/
def Violation.said (v : Violation) : String × Option String × String × String :=
  (v.className, v.member, v.rule, v.message)

/-- A constant with a misnamed field in format 2. -/
def spacedValue : Dump where
  name := "spaced.txt"
  text := "// Signature format: 2.0\npackage p \x7b\n  public class A \x7b\n" ++
    "    field public static final String lower = \"a : b\";\n  \x7d\n\x7d\n"

/-- The same constant in format 1, with another value. -/
def crampedValue : Dump where
  name := "cramped.txt"
  text := "package p \x7b\n  public class A \x7b\n" ++
    "    field public static final String lower = \"a: b\";\n  \x7d\n\x7d\n"

/-- Two fields whose identities hold a colon and differ in a blank have violations of one signature. -/
theorem signature_eq_iff_spacedValue :
    ∃ v ∈ (Pass.examining {} spacedValue none []).report.violations,
    ∃ w ∈ (Pass.examining {} crampedValue none []).report.violations,
      (v.signature = w.signature ↔
        v.className = w.className ∧ v.rule = w.rule ∧ v.message = w.message ∧ v.memberText = w.memberText) ∧
      v.member ≠ w.member ∧ v.signature = w.signature := by
  have spaced : (examine {} spacedValue none []).violations.map Violation.said =
      [("p.A", some "java.lang.String-lower-\"a : b\"", "C2", "Constant field names must be FOO_NAME")] := by
    decide +kernel
  have cramped : (examine {} crampedValue none []).violations.map Violation.said =
      [("p.A", some "java.lang.String-lower-\"a: b\"", "C2", "Constant field names must be FOO_NAME")] := by
    decide +kernel
  obtain ⟨v, memV, saidV⟩ := List.mem_map.mp (spaced ▸ List.mem_singleton.mpr rfl)
  obtain ⟨w, memW, saidW⟩ := List.mem_map.mp (cramped ▸ List.mem_singleton.mpr rfl)
  obtain ⟨className, member, rule, message⟩ := by simpa only [Violation.said, Prod.mk.injEq] using saidV
  obtain ⟨className', member', rule', message'⟩ := by simpa only [Violation.said, Prod.mk.injEq] using saidW
  rw [← Pass.violations_examining] at memV memW
  have told := signature_eq_iff.2 _ _ v memV w memW
  have memberText : v.memberText = w.memberText := by
    rw [Violation.memberText, Violation.memberText, member, member']
    decide
  refine ⟨v, memV, w, memW, told, ?_, told.mpr ⟨?_, ?_, ?_, memberText⟩⟩
  · rw [member, member']
    decide
  · rw [className, className']
  · rw [rule, rule']
  · rw [message, message']

end SignatureLint
