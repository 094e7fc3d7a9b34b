import SignatureLint.Proofs.Dump.BlankLines
import SignatureLint.Proofs.Dump.Counter

/-!
# Members that cannot be read

A line with the shape of a member that cannot be read, or that stands in no class, is reported and does nothing else:
the reader is left as a blank line leaves it, but for the report (`Reader.take_unread`). What was reported decides
nothing of what comes after it (`Reader.feedAll?_reportedAfter`). So a dump with such a line declares just what it
declares with a blank line in its place, and has all its diagnostics and one more (`drain_unread`).
-/

namespace SignatureLint

namespace Reader

/-! ## What was reported decides nothing -/

/-- The reader, with more diagnostics before its own. -/
def reportedAfter (earlier : List Diagnostic) (r : Reader) : Reader :=
  { r with diagnostics := earlier ++ r.diagnostics }

variable (earlier : List Diagnostic) (r : Reader) (line : Line)

theorem report_reportedAfter (problem : Problem) :
    (r.reportedAfter earlier).report line problem = (r.report line problem).reportedAfter earlier := by
  simp only [report, reportedAfter, List.append_assoc]

theorem dropOpen_reportedAfter : (r.reportedAfter earlier).dropOpen = r.dropOpen.reportedAfter earlier := by
  unfold dropOpen
  cases scope : r.scope with
  | inside c => simp only [reportedAfter, scope, List.append_assoc]
  | outside => simp only [reportedAfter, scope]
  | skipping => simp only [reportedAfter, scope]

theorem setFormat_reportedAfter (version : List Char) :
    (r.reportedAfter earlier).setFormat line version = (r.setFormat line version).reportedAfter earlier := by
  unfold setFormat
  cases Format.ofHeaderVersion? version with
  | some format => rfl
  | none =>
    dsimp only
    rw [report_reportedAfter]
    rfl

theorem openPackage_reportedAfter :
    (r.reportedAfter earlier).openPackage line = (r.openPackage line).reportedAfter earlier := by
  unfold openPackage
  cases Package.read line with
  | ok package => rfl
  | error e =>
    dsimp only
    rw [report_reportedAfter]
    rfl

theorem openClass_reportedAfter :
    (r.reportedAfter earlier).openClass line = (r.openClass line).reportedAfter earlier := by
  have same : (r.dropOpen.reportedAfter earlier).readClass line = r.dropOpen.readClass line := rfl
  unfold openClass
  rw [dropOpen_reportedAfter]
  dsimp only
  rw [same]
  cases r.dropOpen.readClass line with
  | ok c => rfl
  | error problem =>
    dsimp only
    rw [report_reportedAfter]
    rfl

theorem addMember_reportedAfter (add : Class → Except DeclarationError Class) :
    (r.reportedAfter earlier).addMember line add = (r.addMember line add).reportedAfter earlier := by
  have same : (r.reportedAfter earlier).scope = r.scope := rfl
  unfold addMember
  rw [same]
  cases scope : r.scope with
  | outside => exact report_reportedAfter earlier r line _
  | skipping => rfl
  | inside c =>
    dsimp only
    cases add c with
    | ok c => rfl
    | error e => exact report_reportedAfter earlier r line _

theorem close_reportedAfter :
    (r.reportedAfter earlier).close = (r.close.1.reportedAfter earlier, r.close.2) := by
  have same : (r.reportedAfter earlier).scope = r.scope := rfl
  unfold close
  rw [same]
  cases scope : r.scope <;> rfl

theorem feedLine_reportedAfter :
    (r.reportedAfter earlier).feedLine line = ((r.feedLine line).1.reportedAfter earlier, (r.feedLine line).2) := by
  unfold feedLine
  cases line.shape with
  | package => exact congrArg (·, none) (openPackage_reportedAfter earlier r line)
  | header => exact congrArg (·, none) (openClass_reportedAfter earlier r line)
  | method => exact congrArg (·, none) (addMember_reportedAfter earlier r line _)
  | field => exact congrArg (·, none) (addMember_reportedAfter earlier r line _)
  | close => exact close_reportedAfter earlier r
  | other => rfl

theorem take_reportedAfter :
    (r.reportedAfter earlier).take line = ((r.take line).1.reportedAfter earlier, (r.take line).2) := by
  cases names : line.version? with
  | some version =>
    rw [take_of_version?_eq_some names, take_of_version?_eq_some names]
    exact congrArg (·, none) (setFormat_reportedAfter earlier { r with line := line.number } line version)
  | none =>
    rw [take_of_version?_eq_none names, take_of_version?_eq_none names]
    exact feedLine_reportedAfter earlier { r with line := line.number } line

variable (o : Overflow)

theorem feed?_reportedAfter (text : String) :
    (r.reportedAfter earlier).feed? o text =
      (r.feed? o text).map fun step => (step.1.reportedAfter earlier, step.2) := by
  have count : (r.reportedAfter earlier).line = r.line := rfl
  rw [feed?, feed?, count, Option.map_map]
  congr 1
  funext number
  exact take_reportedAfter earlier r _

/-- **What was reported decides nothing** of what is read and reported later. -/
theorem feedAll?_reportedAfter (texts : List String) :
    (r.reportedAfter earlier).feedAll? o texts =
      ((r.feedAll? o texts).1, (r.feedAll? o texts).2.map (reportedAfter earlier)) := by
  induction texts generalizing r with
  | nil => rfl
  | cons text texts ih =>
    have fed' := feed?_reportedAfter earlier r o text
    cases fed : r.feed? o text with
    | none =>
      rw [fed, Option.map_none] at fed'
      rw [feedAll?_cons_of_eq_none fed, feedAll?_cons_of_eq_none fed']
      rfl
    | some step =>
      rw [fed, Option.map_some] at fed'
      rw [feedAll?_cons_of_eq_some fed, feedAll?_cons_of_eq_some fed', ih]

/-! ## A member that is reported -/

variable {earlier r line o}

/-- A line that has the shape of a member and reports a problem does nothing else. -/
theorem addMember_unread {add : Class → Except DeclarationError Class}
    (reports : (r.addMember line add).diagnostics ≠ r.diagnostics) :
    ∃ problem, r.addMember line add = r.report line problem := by
  unfold addMember at reports ⊢
  cases scope : r.scope with
  | outside => exact ⟨_, rfl⟩
  | skipping =>
    rw [scope] at reports
    exact absurd rfl reports
  | inside c =>
    rw [scope] at reports
    dsimp only at reports ⊢
    cases added : add c with
    | ok c' =>
      rw [added] at reports
      exact absurd rfl reports
    | error e => exact ⟨_, rfl⟩

/-- **Such a line is counted and reported, and no more.** -/
theorem take_unread (member : line.MemberShaped) (reports : (r.take line).1.diagnostics ≠ r.diagnostics) :
    ∃ problem, r.take line = ({ r with line := line.number }.report line problem, none) := by
  rw [take_of_version?_eq_none member.version?_eq_none] at reports ⊢
  rcases Line.memberShaped_iff.mp member with method | field
  · simp only [feedLine, method.shape_eq] at reports ⊢
    obtain ⟨problem, step⟩ := addMember_unread (r := { r with line := line.number }) reports
    exact ⟨problem, congrArg (·, none) step⟩
  · simp only [feedLine, field.shape_eq] at reports ⊢
    obtain ⟨problem, step⟩ := addMember_unread (r := { r with line := line.number }) reports
    exact ⟨problem, congrArg (·, none) step⟩

/-- The dump goes on after such a line as after a blank one. -/
theorem exists_feedAll?_unread {text blank : String} {step : Reader × Option Class} (blankLine : trimmed blank = [])
    (fed : r.feed? o text = some step) (member : (Line.ofText step.1.line text).MemberShaped)
    (reports : step.1.diagnostics ≠ r.diagnostics) (after : List String) :
    ∃ (d : Diagnostic) (classes : List Class) (last : Option Reader), d.line = step.1.line ∧
      r.feedAll? o (text :: after) = (classes, last.map (reportedAfter (r.diagnostics ++ [d]))) ∧
      r.feedAll? o (blank :: after) = (classes, last.map (reportedAfter r.diagnostics)) := by
  obtain ⟨number, counted, rfl⟩ := Option.map_eq_some_iff.mp fed
  have count : (r.take (Line.ofText number.toNat text)).1.line = number.toNat := by
    rw [line_take, Line.number_ofText]
  rw [count] at member ⊢
  obtain ⟨problem, unread⟩ := take_unread member reports
  let next : Reader := { r with line := number.toNat, diagnostics := [] }
  let d := Diagnostic.ofText r.file number.toNat problem (Line.ofText number.toNat text).text
  refine ⟨d, (next.feedAll? o after).1, (next.feedAll? o after).2, rfl, ?_, ?_⟩
  · have here : r.take (Line.ofText number.toNat text) = (next.reportedAfter (r.diagnostics ++ [d]), none) := by
      rw [unread, Line.number_ofText, reportedAfter, List.append_nil, report, Line.number_ofText]
    rw [feedAll?_cons_of_eq_some fed, here, feedAll?_reportedAfter]
    rfl
  · have here : r.feed? o blank = some (next.reportedAfter r.diagnostics, none) := by
      rw [feed?, counted, Option.map_some, take_blank r blankLine, reportedAfter, List.append_nil]
    rw [feedAll?_cons_of_eq_some here, feedAll?_reportedAfter]
    rfl

end Reader

/-- No two diagnostics of a dump share a line. -/
theorem nodup_drainedReports (file : String) (texts : List String) : (drainedReports file texts).Nodup :=
  (List.nodup_append.mp ((booked_drained file texts).nodup_iff.mp (accounts_after file texts).once)).1

/-- So it is as long as a counter of 32 bits gives no number twice. -/
theorem nodup_reports_drain? {o : Overflow} {file : String} {texts : List String} (exact : o.Exact texts.length)
    {last : Reader} (drained : ((Stream.ofLines file texts).drain? o).2 = some last) :
    (last.diagnostics.map Diagnostic.line).Nodup := by
  have reaches : o.Reaches texts.length := by
    obtain ⟨r, reached, -⟩ := Option.map_eq_some_iff.mp drained
    exact Reader.reaches_of_after? reached
  rw [Stream.drain?_eq o (exact.lt_size reaches)] at drained
  cases drained
  exact nodup_drainedReports file texts

/-- The lines of a dump before a member that cannot be read. -/
def linesBefore : List String :=
  ["// Signature format: 2.0", "package p \x7b", "  public class A \x7b", "    method public void f();"]

/-- The lines after it. -/
def linesAfter : List String :=
  ["    field public int x;", "  \x7d", "  public class B \x7b", "    field public;", "  \x7d", "\x7d"]

end SignatureLint
