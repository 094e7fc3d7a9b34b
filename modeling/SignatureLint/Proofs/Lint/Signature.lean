import Mathlib.Data.List.Nodup
import SignatureLint.Proofs.Dump.Names
import SignatureLint.Proofs.Lint.Origin

/-!
# What a signature tells

A signature joins four texts with colons, and a member's text can hold colons of its own. Yet the last two
texts can be told, since no rule and no message has a colon (`parts_of_signature`), and so can the first,
since the name of a class has none (`className_eq_of_signature`). So a finding is taken for another's only if
both are of one rule and about classes of one full name.
-/

namespace SignatureLint

/-! ## Texts and colons -/

/-- The characters of a text but for its blanks. -/
def unblanked (text : String) : List Char := text.toList.filter fun c => !Text.isBlank c

theorem unblanked_eq_toList {text : String} (noBlank : ∀ c ∈ text.toList, Text.isBlank c = false) :
    unblanked text = text.toList := by
  apply List.filter_eq_self.mpr
  intro c mem
  rw [noBlank c mem]
  rfl

theorem colon_not_mem_unblanked {text : String} (noColon : ':' ∉ text.toList) : ':' ∉ unblanked text :=
  fun mem => noColon (List.mem_of_mem_filter mem)

theorem toList_violationSignature (className : String) (member : Option String) (rule message : String) :
    (violationSignature className member rule message).toList =
      unblanked className ++ ':' :: (unblanked (member.getD "") ++ ':' ::
        (unblanked rule ++ ':' :: unblanked message)) := by
  have joined : (":".intercalate [className, member.getD "", rule, message]).toList =
      className.toList ++ ':' :: ((member.getD "").toList ++ ':' :: (rule.toList ++ ':' :: message.toList)) := by
    simp
  rw [violationSignature, joined, String.toList_ofList]
  simp only [List.filter_append, List.filter_cons, show Text.isBlank ':' = false by decide, Bool.not_false, if_true]
  rfl

/-- The identity of the member that a violation names, without blanks; nothing if it names none. -/
def Violation.memberText (v : Violation) : List Char := unblanked (v.member.getD "")

/-- The four texts of a signature, with a colon between each two. -/
theorem Violation.toList_signature (v : Violation) :
    v.signature.toList = unblanked v.className ++ ':' :: (v.memberText ++ ':' ::
      (unblanked v.rule ++ ':' :: unblanked v.message)) := by
  rw [v.signature_eq, toList_violationSignature, memberText]

/-- Texts after a last colon are told apart. -/
theorem eq_of_colon_append {x y left right : List Char} (hx : ':' ∉ x) (hy : ':' ∉ y)
    (same : left ++ ':' :: x = right ++ ':' :: y) : left = right ∧ x = y := by
  have reversed := congrArg List.reverse same
  simp only [List.reverse_append, List.reverse_cons, List.append_assoc, List.singleton_append] at reversed
  obtain ⟨after, before⟩ := eq_of_append_mark (by simpa using hx) (by simpa using hy) reversed
  exact ⟨List.reverse_inj.mp before, List.reverse_inj.mp after⟩

/-! ## What a rule finds -/

/-- All that the rules say of what they find. -/
def ruleMessages : List String := [
  "Parcelable requires CREATOR, writeToParcel, and describeContents; missing one",
  "Parcelable classes must be final",
  "Parcelable inflation is exposed through CREATOR, not raw constructors",
  "Constant field names must be FOO_NAME",
  "If min/max could change in future, make them dynamic methods",
  "All constants must be defined at compile time",
  "Methods must not throw generic exceptions",
  "Must override both equals and hashCode; missing one",
  "Callback class names should be singular",
  "Class should be named FooCallback"]

/-- What the rule finds in a view: it is about the class of the view, under a name of the rule, and says one of
the things that rules say. -/
structure Finding.FoundBy (r : Rule) (v : ClassView) (f : Finding) : Prop where
  subject : f.subject = v.own
  rule : f.rule ∈ r.ids
  message : f.message ∈ ruleMessages

/-- No message has a colon. -/
theorem Finding.FoundBy.noColon {r : Rule} {v : ClassView} {f : Finding} (found : f.FoundBy r v) :
    ':' ∉ f.message.toList := by
  have checked : ∀ message ∈ ruleMessages, ':' ∉ message.toList := by
    simp only [ruleMessages, List.forall_mem_cons, List.not_mem_nil, false_implies, implies_true, and_true]
    -- the characters of a literal are read off it, which is far quicker than to decode it
    repeat rw [String.toList_ofList]
    decide
  exact checked f.message found.message

/-- Messages differ in more than blanks. -/
theorem eq_of_unblanked_message {message message' : String} (known : message ∈ ruleMessages)
    (known' : message' ∈ ruleMessages) (same : unblanked message = unblanked message') : message = message' := by
  have distinct : (ruleMessages.map unblanked).Nodup := by
    simp only [ruleMessages, List.map_cons, List.map_nil, unblanked]
    repeat rw [String.toList_ofList]
    decide +kernel
  exact List.inj_on_of_nodup_map distinct known known' same

namespace Rules

variable {v : ClassView} {f : Finding}

theorem foundBy_finding {r : Rule} {severity : Severity} {member : Option Member} {rule message : String}
    (listed : rule ∈ r.ids) (known : message ∈ ruleMessages) :
    (v.finding severity member rule message).FoundBy r v := ⟨rfl, listed, known⟩

theorem foundBy_parcelable (mem : f ∈ parcelable.check v) : f.FoundBy parcelable v := by
  simp only [parcelable] at mem
  split at mem
  · simp only [List.mem_append, List.mem_ite_nil_left, List.mem_singleton, List.mem_map] at mem
    rcases mem with (⟨-, rfl⟩ | ⟨-, rfl⟩) | ⟨m, -, rfl⟩
    · exact foundBy_finding (by decide) (by simp [ruleMessages])
    · exact foundBy_finding (by decide) (by simp [ruleMessages])
    · exact foundBy_finding (by decide) (by simp [ruleMessages])
  · cases mem

theorem foundBy_checkConstant {d : Field} (mem : f ∈ checkConstant v d) : f.FoundBy constants v := by
  simp only [checkConstant, List.mem_append, List.mem_ite_nil_left, List.mem_ite_nil_right, List.mem_singleton] at mem
  rcases mem with (⟨-, rfl⟩ | ⟨-, rfl⟩) | ⟨-, rfl⟩
  · exact foundBy_finding (by decide) (by simp [ruleMessages])
  · exact foundBy_finding (by decide) (by simp [ruleMessages])
  · exact foundBy_finding (by decide) (by simp [ruleMessages])

theorem foundBy_constants (mem : f ∈ constants.check v) : f.FoundBy constants v := by
  simp only [constants] at mem
  split at mem
  · cases mem
  · obtain ⟨d, -, here⟩ := List.mem_flatMap.mp mem
    exact foundBy_checkConstant here

theorem foundBy_exceptions (mem : f ∈ exceptions.check v) : f.FoundBy exceptions v := by
  obtain ⟨m, -, rfl⟩ := List.mem_map.mp mem
  exact foundBy_finding (by decide) (by simp [ruleMessages])

theorem foundBy_equality (mem : f ∈ equality.check v) : f.FoundBy equality v := by
  simp only [equality, List.mem_ite_nil_left, List.mem_singleton] at mem
  rw [mem.2]
  exact foundBy_finding (by decide) (by simp [ruleMessages])

theorem foundBy_callbacks (mem : f ∈ callbacks.check v) : f.FoundBy callbacks v := by
  simp only [callbacks] at mem
  split at mem
  · cases mem
  · simp only [List.mem_append, List.mem_ite_nil_right, List.mem_singleton] at mem
    rcases mem with ⟨-, rfl⟩ | ⟨-, rfl⟩
    · exact foundBy_finding (by decide) (by simp [ruleMessages])
    · exact foundBy_finding (by decide) (by simp [ruleMessages])

end Rules

/-- All that the rules find keeps to what `Finding.FoundBy` says. -/
theorem foundBy_of_mem_check {r : Rule} (listed : r ∈ allRules) {v : ClassView} {f : Finding} (mem : f ∈ r.check v) :
    f.FoundBy r v := by
  simp only [allRules, List.mem_cons, List.not_mem_nil, or_false] at listed
  rcases listed with rfl | rfl | rfl | rfl | rfl
  · exact Rules.foundBy_parcelable mem
  · exact Rules.foundBy_constants mem
  · exact Rules.foundBy_exceptions mem
  · exact Rules.foundBy_equality mem
  · exact Rules.foundBy_callbacks mem

/-- The names of rules have no colons and no blanks. -/
theorem plain_of_mem_ids {r : Rule} (listed : r ∈ allRules) {rule : String} (mem : rule ∈ r.ids) :
    ':' ∉ rule.toList ∧ ∀ c ∈ rule.toList, Text.isBlank c = false := by
  have checked : ∀ r ∈ allRules, ∀ rule ∈ r.ids, rule.toList.all (fun c => c != ':' && !Text.isBlank c) = true := by
    decide
  have plain := List.all_eq_true.mp (checked r listed rule mem)
  simp only [Bool.and_eq_true, bne_iff_ne, Bool.not_eq_true'] at plain
  exact ⟨fun colon => (plain ':' colon).1 rfl, fun c mem => (plain c mem).2⟩

/-! ## What a signature tells -/

section

variable {r s : Rule} {v w : ClassView} {f g : Finding} (hr : r ∈ allRules) (hs : s ∈ allRules) (hf : f.FoundBy r v)
  (hg : g.FoundBy s w) (same : f.violation.signature = g.violation.signature)

include hr hs hf hg same

/-- Findings with one signature are of one rule and have one message, and what stands before these is the same. -/
theorem parts_of_signature :
    unblanked f.subject.fullname ++ ':' :: f.violation.memberText =
        unblanked g.subject.fullname ++ ':' :: g.violation.memberText ∧
      f.rule = g.rule ∧ f.message = g.message := by
  have joined := congrArg String.toList same
  rw [Violation.toList_signature, Violation.toList_signature] at joined
  simp only [← List.cons_append, ← List.append_assoc] at joined
  obtain ⟨before, message⟩ :=
    eq_of_colon_append (colon_not_mem_unblanked hf.noColon) (colon_not_mem_unblanked hg.noColon) joined
  obtain ⟨noColon, noBlank⟩ := plain_of_mem_ids hr hf.rule
  obtain ⟨noColon', noBlank'⟩ := plain_of_mem_ids hs hg.rule
  obtain ⟨first, rule⟩ :=
    eq_of_colon_append (colon_not_mem_unblanked noColon) (colon_not_mem_unblanked noColon') before
  rw [unblanked_eq_toList noBlank, unblanked_eq_toList noBlank'] at rule
  exact ⟨first, String.toList_inj.mp rule, eq_of_unblanked_message hf.message hg.message message⟩

/-- Findings with one signature are of one rule. -/
theorem rule_eq_of_signature : f.rule = g.rule := (parts_of_signature hr hs hf hg same).2.1

end

/-- The full name of a class has no blank and no colon. -/
theorem unblanked_of_isSpelled {text : String} (spelled : Token.IsSpelled text) :
    unblanked text = text.toList ∧ ':' ∉ text.toList :=
  ⟨unblanked_eq_toList fun c mem => Token.isBlank_of_isSpelling (spelled c mem),
    fun mem => absurd (spelled ':' mem) (by decide)⟩

/-- Findings with one signature are about classes of one full name. -/
theorem className_eq_of_signature {f g : Finding} (spelled : Token.IsSpelled f.subject.fullname)
    (spelled' : Token.IsSpelled g.subject.fullname) (same : f.violation.signature = g.violation.signature) :
    f.subject.fullname = g.subject.fullname := by
  have joined := congrArg String.toList same
  obtain ⟨plain, noColon⟩ := unblanked_of_isSpelled spelled
  obtain ⟨plain', noColon'⟩ := unblanked_of_isSpelled spelled'
  rw [Violation.toList_signature, Violation.toList_signature] at joined
  have className : unblanked f.subject.fullname = unblanked g.subject.fullname :=
    (eq_of_append_mark (colon_not_mem_unblanked noColon) (colon_not_mem_unblanked noColon') joined).1
  rw [plain, plain'] at className
  exact String.toList_inj.mp className

end SignatureLint
