import Mathlib.Data.List.Forall2
import SignatureLint.Proofs.Lint.Restrict
import SignatureLint.Proofs.Lint.Signature
import SignatureLint.Proofs.Pairing.Merge

/-!
# Classes that stand for others

A class of the current dump is judged with the members of its counterpart beside its own. So a class without
members, which says of itself what its counterpart says, is judged as the counterpart is by itself: rules read
nothing else of a class (`check_looksLike`). This makes two ways of examining a part of a baseline agree
(`examine_standIns`): a dump of such classes beside the baseline, and an empty dump beside it with the names of
the part as known classes. The first way goes by counterparts and the second by known classes.

What is recorded agrees in rules and signatures (`Findings.marks_recordAll`). It differs in where it stood, since
a violation on the class itself stands where the class in view does.
-/

namespace SignatureLint

/-! ## What rules read -/

namespace ClassView

/-- Views in which rules read the same of a class and see the same members. -/
structure LooksLike (v w : ClassView) : Prop where
  package : v.own.package = w.own.package
  fullname : v.own.fullname = w.own.fullname
  leadInterface : v.own.leadInterface = w.own.leadInterface
  modifiers : v.own.modifiers = w.own.modifiers
  methods : v.methods = w.methods
  fields : v.fields = w.fields

variable {v w : ClassView}

theorem LooksLike.plainMethods (like : v.LooksLike w) : v.plainMethods = w.plainMethods := by
  rw [ClassView.plainMethods, like.methods]
  rfl

theorem LooksLike.constructors (like : v.LooksLike w) : v.constructors = w.constructors := by
  rw [ClassView.constructors, like.methods]
  rfl

theorem LooksLike.name (like : v.LooksLike w) : v.own.name = w.own.name := by
  rw [Class.name, like.fullname]
  rfl

end ClassView

namespace Finding

/-- The same finding about another class. -/
def about (c : Class) (f : Finding) : Finding := { f with subject := c }

theorem about_finding (v w : ClassView) (severity : Severity) (member : Option Member) (rule message : String) :
    (w.finding severity member rule message).about v.own = v.finding severity member rule message := rfl

theorem signature_about {c : Class} {f : Finding} (same : c.fullname = f.subject.fullname) :
    (f.about c).violation.signature = f.violation.signature := by
  rw [signature_violation, signature_violation, ← same]
  rfl

end Finding

namespace Rules

open Finding (about_finding)

variable {v w : ClassView}

theorem checkConstant_about (v w : ClassView) (d : Field) :
    checkConstant v d = (checkConstant w d).map (Finding.about v.own) := by
  simp only [checkConstant, List.map_append, apply_ite (List.map _), List.map_cons, List.map_nil, about_finding]

variable (like : v.LooksLike w)

include like

theorem parcelable_looksLike : parcelable.check v = (parcelable.check w).map (Finding.about v.own) := by
  have members : hasParcelableMembers v = hasParcelableMembers w := by
    simp only [hasParcelableMembers, like.fields, like.plainMethods]
  have made : parcelConstructors v = parcelConstructors w := by
    simp only [parcelConstructors, like.constructors]
  simp only [parcelable, like.leadInterface, like.modifiers, members, made]
  split
  · simp only [List.map_append, apply_ite (List.map _), List.map_cons, List.map_nil, List.map_map, Function.comp_def,
      about_finding]
  · rfl

theorem constants_looksLike : constants.check v = (constants.check w).map (Finding.about v.own) := by
  simp only [constants, like.fullname, like.fields]
  split
  · rfl
  · rw [List.map_flatMap]
    exact List.flatMap_congr fun d _ => checkConstant_about v w d

theorem exceptions_looksLike : exceptions.check v = (exceptions.check w).map (Finding.about v.own) := by
  simp only [exceptions, like.methods, List.map_map, Function.comp_def, about_finding]

theorem overrides_looksLike (type name : String) (parameterTypes : List String) :
    overrides v type name parameterTypes = overrides w type name parameterTypes := by
  rw [overrides, like.plainMethods]
  rfl

theorem equality_looksLike : equality.check v = (equality.check w).map (Finding.about v.own) := by
  simp only [equality, overrides_looksLike like]
  split
  · rfl
  · rfl

theorem callbacks_looksLike : callbacks.check v = (callbacks.check w).map (Finding.about v.own) := by
  simp only [callbacks, like.fullname, like.name]
  split
  · rfl
  · simp only [List.map_append, apply_ite (List.map _), List.map_cons, List.map_nil, about_finding]

end Rules

section

variable {v w : ClassView}

/-- Each rule finds the same in views that look alike, but for the class that it is about. -/
theorem check_looksLike (like : v.LooksLike w) {r : Rule} (listed : r ∈ allRules) :
    r.check v = (r.check w).map (Finding.about v.own) := by
  simp only [allRules, List.mem_cons, List.not_mem_nil, or_false] at listed
  rcases listed with rfl | rfl | rfl | rfl | rfl
  · exact Rules.parcelable_looksLike like
  · exact Rules.constants_looksLike like
  · exact Rules.exceptions_looksLike like
  · exact Rules.equality_looksLike like
  · exact Rules.callbacks_looksLike like

/-! ## Rules and signatures -/

/-- What tells a violation from others of its rule, and the rule. -/
def Violation.mark (v : Violation) : String × String := (v.rule, v.signature)

/-- Views that look alike have findings of the same rules with the same signatures, in the same order. -/
theorem marks_findingsIn (like : v.LooksLike w) (config : Config) :
    (findingsIn config v).map (fun f => f.violation.mark) = (findingsIn config w).map fun f => f.violation.mark := by
  rw [findingsIn, findingsIn, like.package]
  cases config.ignores w.own.package with
  | true => rfl
  | false =>
    simp only [Bool.false_eq_true, if_false, List.map_flatMap]
    apply List.flatMap_congr
    intro r enabled
    have listed := (List.mem_filter.mp enabled).1
    rw [check_looksLike like listed, List.map_map]
    apply List.map_congr_left
    intro f found
    have same : v.own.fullname = f.subject.fullname := by
      rw [(foundBy_of_mem_check listed found).subject]
      exact like.fullname
    exact congrArg (Prod.mk f.rule) (Finding.signature_about same)

end

namespace Findings

variable {config : Config} {fs gs : Findings}

theorem hasSeen_eq_any_mark (fs : Findings) (signature : String) :
    fs.hasSeen signature = (fs.violations.map Violation.mark).any fun mark => mark.2 == signature := by
  rw [List.any_map]
  rfl

/-- Whether a finding is recorded is told by its mark and those before it. -/
theorem marks_record {f g : Finding} (before : fs.violations.map Violation.mark = gs.violations.map Violation.mark)
    (same : f.violation.mark = g.violation.mark) :
    (fs.record config f).violations.map Violation.mark = (gs.record config g).violations.map Violation.mark := by
  obtain ⟨rule, signature⟩ := Prod.mk.inj same
  have rule : f.rule = g.rule := rule
  rw [record, record, hasSeen_eq_any_mark, hasSeen_eq_any_mark, before, rule, signature]
  split
  · simp only [List.map_append, List.map_cons, List.map_nil, before, same]
  · exact before

/-- Findings with the same marks leave the same marks. -/
theorem marks_recordAll {findings findings' : List Finding}
    (before : fs.violations.map Violation.mark = gs.violations.map Violation.mark)
    (same : findings.map (fun f => f.violation.mark) = findings'.map fun f => f.violation.mark) :
    (fs.recordAll config findings).violations.map Violation.mark =
      (gs.recordAll config findings').violations.map Violation.mark := by
  induction findings generalizing fs gs findings' with
  | nil =>
    rw [List.map_nil, eq_comm, List.map_eq_nil_iff] at same
    rw [same]
    exact before
  | cons f findings ih =>
    cases findings' with
    | nil => cases same
    | cons g findings' =>
      obtain ⟨here, later⟩ := List.cons.inj same
      rw [recordAll_cons, recordAll_cons]
      exact ih (marks_record before here) later

/-- The signatures of a rule are told by the marks. -/
theorem signatures_failuresOf (fs : Findings) (rule : String) :
    (fs.report.failuresOf rule).map Violation.signature =
      ((fs.violations.map Violation.mark).filter fun mark => mark.1 = rule).map Prod.snd := by
  rw [failuresOf_report, List.filter_map, List.map_map]
  rfl

end Findings

/-- Walks over views that look alike have the same signatures for each rule. -/
theorem signatures_of_looksLike {views views' : List ClassView} (like : List.Forall₂ ClassView.LooksLike views views')
    (config : Config) (rule : String) :
    ((Findings.empty.recordAll config (views.flatMap (findingsIn config))).report.failuresOf rule).map
        Violation.signature =
      ((Findings.empty.recordAll config (views'.flatMap (findingsIn config))).report.failuresOf rule).map
        Violation.signature := by
  have same : (views.flatMap (findingsIn config)).map (fun f => f.violation.mark) =
      (views'.flatMap (findingsIn config)).map fun f => f.violation.mark := by
    rw [List.map_flatMap, List.map_flatMap]
    induction like with
    | nil => rfl
    | cons here _ ih => rw [List.flatMap_cons, List.flatMap_cons, marks_findingsIn here config, ih]
  rw [Findings.signatures_failuresOf, Findings.signatures_failuresOf, Findings.marks_recordAll rfl same]

/-! ## Stand-ins -/

/-- The class has no members, and says of itself what `c` says: package, full name, modifiers and the interface
that stands for all. -/
structure Class.StandsFor (standIn c : Class) : Prop where
  package : standIn.package = c.package
  fullname : standIn.fullname = c.fullname
  modifiers : standIn.modifiers = c.modifiers
  leadInterface : standIn.leadInterface = c.leadInterface
  methods : standIn.methods = []
  fields : standIn.fields = []

instance (standIn c : Class) : Decidable (standIn.StandsFor c) :=
  decidable_of_iff (standIn.package = c.package ∧ standIn.fullname = c.fullname ∧ standIn.modifiers = c.modifiers ∧
      standIn.leadInterface = c.leadInterface ∧ standIn.methods = [] ∧ standIn.fields = [])
    ⟨fun ⟨p, n, m, i, ms, fs⟩ => ⟨p, n, m, i, ms, fs⟩, fun ⟨p, n, m, i, ms, fs⟩ => ⟨p, n, m, i, ms, fs⟩⟩

namespace Class.StandsFor

variable {standIn c : Class}

theorem className_eq (stands : standIn.StandsFor c) : standIn.className = c.className :=
  ClassName.ext_fullname stands.package stands.fullname

/-- Beside the class, a stand-in looks like the class by itself. -/
theorem looksLike (stands : standIn.StandsFor c) : ClassView.LooksLike ⟨standIn, some c⟩ ⟨c, none⟩ where
  package := stands.package
  fullname := stands.fullname
  leadInterface := stands.leadInterface
  modifiers := stands.modifiers
  methods := by simp [ClassView.methods, stands.methods]
  fields := by simp [ClassView.fields, stands.fields]

end Class.StandsFor

section

variable {base current chosen : List Class} {known : List ClassName}

/-- Without known names, each class is visited beside the baseline class of its name, and nothing else is. -/
theorem Increasing.listWalk_nil (hc : Increasing current) (hb : Increasing base) :
    listWalk [] base current = current.map fun c => .current c (named? c.className base) := by
  have noKnown : (listWalk [] base current).filter (! Visit.isCurrent ·) = [] :=
    hc.filter_known_listWalk hb .nil
  have all : (listWalk [] base current).filter Visit.isCurrent = listWalk [] base current := by
    apply List.filter_eq_self.mpr
    intro v mem
    simpa using List.filter_eq_nil_iff.mp noKnown v mem
  rw [← all, hc.filter_isCurrent_listWalk hb .nil]

/-- Without current classes, the baseline classes of the known names are visited. -/
theorem Increasing.listWalk_of_known (hb : Increasing base) (sub : chosen.Sublist base) :
    listWalk (chosen.map Class.className) base [] = chosen.map .known := by
  have increasing : Increasing (chosen.map Class.className) :=
    increasing_map_className.mpr (List.Pairwise.sublist sub hb)
  have found : (chosen.map Class.className).filterMap (fun name => named? name base) = chosen := by
    rw [List.filterMap_map, List.filterMap_congr (g := some), List.filterMap_some]
    intro c mem
    exact hb.named?_of_mem (sub.subset mem)
  rw [listWalk, hb.listKnown_eq increasing, knownVisits, found]

/-- Classes that stand for a part of a baseline in order are in order. -/
theorem increasing_of_standsFor (stand : List.Forall₂ Class.StandsFor current chosen) (hc : Increasing chosen) :
    Increasing current := by
  have names : current.map className = chosen.map className := by
    induction stand with
    | nil => rfl
    | cons here _ ih =>
      rw [List.map_cons, List.map_cons, ih (increasing_cons.mp hc).2]
      exact congrArg (· :: _) here.className_eq
  rw [← increasing_map_className, names]
  exact increasing_map_className.mpr hc

/-- Beside the baseline, stand-ins for a part of it look like that part by itself. -/
theorem forall₂_looksLike (hb : Increasing base) (sub : chosen ⊆ base)
    (stand : List.Forall₂ Class.StandsFor current chosen) :
    List.Forall₂ ClassView.LooksLike (current.map fun c => ⟨c, named? c.className base⟩)
      (chosen.map fun c => ⟨c, none⟩) := by
  induction stand with
  | nil => exact .nil
  | @cons standIn c _ _ here _ ih =>
    have found : named? standIn.className base = some c := by
      rw [here.className_eq]
      exact hb.named?_of_mem (sub List.mem_cons_self)
    rw [List.map_cons, List.map_cons, found]
    exact .cons here.looksLike (ih fun b mem => sub (List.mem_cons_of_mem _ mem))

end

/-- **A part of a baseline is judged the same through stand-ins and by name.** Beside a baseline in order, a dump
of classes that stand for some of its classes has the same signatures for each rule, in the same order, as a dump
without classes has with the names of these as known classes. -/
theorem examine_standIns (config : Config) {base current vacant : Dump} {chosen : List Class}
    (increasing : Increasing base.contents.classes) (sub : chosen.Sublist base.contents.classes)
    (stand : List.Forall₂ Class.StandsFor current.contents.classes chosen)
    (nothing : vacant.contents.classes = []) (rule : String) :
    ((examine config current (some base) []).failuresOf rule).map Violation.signature =
      ((examine config vacant (some base) (chosen.map Class.className)).failuresOf rule).map Violation.signature := by
  have inOrder : Increasing current.contents.classes :=
    increasing_of_standsFor stand (List.Pairwise.sublist sub increasing)
  have paired : (examinedWalk current (some base) []).views =
      current.contents.classes.map fun c => ⟨c, named? c.className base.contents.classes⟩ := by
    rw [examinedWalk, Walk.views, Walk.visits_eq_listWalk]
    simp only [Option.map_some, Option.getD_some, inOrder.listWalk_nil increasing, List.map_map]
    rfl
  have alone : (examinedWalk vacant (some base) (chosen.map Class.className)).views =
      chosen.map fun c => ⟨c, none⟩ := by
    rw [examinedWalk, Walk.views, Walk.visits_eq_listWalk, nothing]
    simp only [Option.map_some, Option.getD_some, increasing.listWalk_of_known sub, List.map_map]
    rfl
  have like := forall₂_looksLike increasing sub.subset stand
  rw [← paired, ← alone] at like
  have same := signatures_of_looksLike like config rule
  rw [Report.failuresOf, Report.failuresOf, failures_examine, failures_examine]
  exact same

/-- A baseline of three classes, of which the first and the last break rules. -/
def threeClasses : Dump where
  name := "base.txt"
  text := "package p \x7b\n  class A implements android.os.Parcelable \x7b\n    ctor A(android.os.Parcel);\n  \x7d\n" ++
    "  class B \x7b\n  \x7d\n  class CObserver \x7b\n  \x7d\n"

/-- Classes that stand for these two. -/
def twoStandIns : Dump where
  name := "current.txt"
  text := "package p \x7b\n  class A implements android.os.Parcelable \x7b\n  \x7d\n  class CObserver \x7b\n  \x7d\n"

/-- The classes of the baseline that they stand for. -/
def chosenTwo : List Class := threeClasses.contents.classes.filter (·.declared ≠ "B")

/-- Two of three classes are judged by way of stand-ins as they are by name. -/
theorem examine_standIns_two :
    let vacant := Dump.mk "empty.txt" ""
    let beside := examine {} twoStandIns (some threeClasses) []
    let named := examine {} vacant (some threeClasses) (chosenTwo.map Class.className)
    Increasing threeClasses.contents.classes ∧ chosenTwo.Sublist threeClasses.contents.classes ∧
      List.Forall₂ Class.StandsFor twoStandIns.contents.classes chosenTwo ∧ vacant.contents.classes = [] ∧
      (beside.failuresOf "FW3").map Violation.signature = (named.failuresOf "FW3").map Violation.signature ∧
      named.violations.map Violation.className = ["p.A", "p.A", "p.A", "p.CObserver"] := by
  intro vacant beside named
  have sub : chosenTwo.Sublist threeClasses.contents.classes := List.filter_sublist
  have evaluated : (Increasing threeClasses.contents.classes ∧
      List.Forall₂ Class.StandsFor twoStandIns.contents.classes chosenTwo ∧ vacant.contents.classes = []) ∧
      named.violations.map Violation.className = ["p.A", "p.A", "p.A", "p.CObserver"] := by decide +kernel
  obtain ⟨⟨increasing, stand, nothing⟩, listed⟩ := evaluated
  exact ⟨increasing, sub, stand, nothing, examine_standIns {} increasing sub stand nothing "FW3", listed⟩

end SignatureLint
