import SignatureLint.Proofs.Lint.Origin
import SignatureLint.Proofs.Pairing.Merge

/-!
# Findings that come with the baseline

Some rules judge each member of a class by itself (`memberFindings`), those of the counterpart as well. So
a member of the baseline is judged in the class that was put on top of it. Where the earlier baseline has
the same member, the earlier examination judges it too: in the earlier class of that name, or, if there was
none, in the baseline class itself, which is visited since its name is known from the later examination
(`exists_earlier_view`). What such a member triggers is therefore never new (`inherited_not_reported`).
-/

namespace SignatureLint

/-! ## Members -/

namespace Class

def members (c : Class) : List Member := c.methods.map .method ++ c.fields.map .field

end Class

namespace ClassView

variable {own b : Class} {m : Member}

/-- Its own members and those of the counterpart. -/
def members (v : ClassView) : List Member := v.methods.map .method ++ v.fields.map .field

theorem members_own (base : Option Class) (mem : m ∈ own.members) : m ∈ (ClassView.mk own base).members := by
  rcases List.mem_append.mp mem with isMethod | isField
  · obtain ⟨method, listed, rfl⟩ := List.mem_map.mp isMethod
    exact List.mem_append_left _ (List.mem_map_of_mem (List.mem_append_left _ listed))
  · obtain ⟨field, listed, rfl⟩ := List.mem_map.mp isField
    exact List.mem_append_right _ (List.mem_map_of_mem (List.mem_append_left _ listed))

theorem members_counterpart (mem : m ∈ b.members) : m ∈ (ClassView.mk own (some b)).members := by
  rcases List.mem_append.mp mem with isMethod | isField
  · obtain ⟨method, listed, rfl⟩ := List.mem_map.mp isMethod
    exact List.mem_append_left _ (List.mem_map_of_mem (List.mem_append_right _ listed))
  · obtain ⟨field, listed, rfl⟩ := List.mem_map.mp isField
    exact List.mem_append_right _ (List.mem_map_of_mem (List.mem_append_right _ listed))

end ClassView

/-! ## What a member triggers -/

open Rules

/-- What the rules on thrown types and on constants find in a member of a class. -/
def memberFindings (v : ClassView) : Member → List Finding
  | .method m =>
    if throwsGeneric m then
      [v.finding .error (some (.method m)) "S1" "Methods must not throw generic exceptions"]
    else []
  | .field d => if !keepsOwnConstants v.own.fullname && isConstant d then checkConstant v d else []

section

variable {v w : ClassView} {m m' : Member} {found : Finding}

theorem constants_check :
    constants.check v =
      if keepsOwnConstants v.own.fullname then [] else (v.fields.filter isConstant).flatMap (checkConstant v) := rfl

/-- The two rules find in a class what they find in its members, one by one. -/
theorem mem_exceptions_or_constants_iff :
    (found ∈ exceptions.check v ∨ found ∈ constants.check v) ↔ ∃ m ∈ v.members, found ∈ memberFindings v m := by
  constructor
  · rintro (byExceptions | byConstants)
    · obtain ⟨method, chosen, rfl⟩ := List.mem_map.mp byExceptions
      obtain ⟨listed, throws⟩ := List.mem_filter.mp chosen
      refine ⟨.method method, List.mem_append_left _ (List.mem_map_of_mem listed), ?_⟩
      rw [memberFindings, if_pos throws]
      exact List.mem_singleton.mpr rfl
    · rw [constants_check] at byConstants
      split at byConstants
      next => cases byConstants
      next checked =>
        obtain ⟨field, chosen, here⟩ := List.mem_flatMap.mp byConstants
        obtain ⟨listed, constant⟩ := List.mem_filter.mp chosen
        refine ⟨.field field, List.mem_append_right _ (List.mem_map_of_mem listed), ?_⟩
        rw [memberFindings, Bool.eq_false_iff.mpr checked, constant]
        exact here
  · rintro ⟨m, mem, here⟩
    rcases List.mem_append.mp mem with isMethod | isField
    · obtain ⟨method, listed, rfl⟩ := List.mem_map.mp isMethod
      refine .inl ?_
      rw [memberFindings] at here
      split at here
      next throws =>
        rw [List.mem_singleton.mp here]
        exact List.mem_map_of_mem (List.mem_filter.mpr ⟨listed, throws⟩)
      next => cases here
    · obtain ⟨field, listed, rfl⟩ := List.mem_map.mp isField
      refine .inr ?_
      rw [memberFindings] at here
      split at here
      next checked =>
        obtain ⟨checked, constant⟩ := Bool.and_eq_true_iff.mp checked
        rw [constants_check, if_neg (Bool.eq_false_iff.mp (Bool.not_eq_true' _ ▸ checked))]
        exact List.mem_flatMap.mpr ⟨field, List.mem_filter.mpr ⟨listed, constant⟩, here⟩
      next => cases here

/-- What is found in a member is what is found in the same member of a class with the same full name. -/
theorem memberFindings_alike {f : Origin → Origin} (same : m'.mapOrigin f = m.mapOrigin f)
    (fullname : w.own.fullname = v.own.fullname) :
    memberFindings w m' =
      (memberFindings v m).map fun found => { found with subject := w.own, member := some m' } := by
  cases m with
  | method method =>
    cases m' with
    | field field' => cases same
    | method method' =>
      have signature := congrArg Method.toMethodSignature (Member.method.inj same)
      have throws : throwsGeneric method' = throwsGeneric method :=
        congrArg (fun s : MethodSignature => s.throws.any (genericExceptions.contains ·)) signature
      rw [memberFindings, memberFindings, throws]
      cases throwsGeneric method <;> rfl
  | field field =>
    cases m' with
    | method method' => cases same
    | field field' =>
      have signature := congrArg Field.toFieldSignature (Member.field.inj same)
      have constant : isConstant field' = isConstant field :=
        congrArg (fun s : FieldSignature => s.modifiers.has "static" && s.modifiers.has "final") signature
      have name : field'.name = field.name := congrArg FieldSignature.name signature
      have type : field'.type = field.type := congrArg FieldSignature.type signature
      have value : field'.value = field.value := congrArg FieldSignature.value signature
      rw [memberFindings, memberFindings, fullname, constant]
      split
      · rw [checkConstant, checkConstant, name, type, value, List.map_append, List.map_append]
        refine congrArg₂ (· ++ ·) (congrArg₂ (· ++ ·) ?_ ?_) ?_
        · cases isConstantName field.name <;> rfl
        · cases field.type != "java.lang.String" && namesLimit field.name <;> rfl
        · cases decide (field.type ∈ valuedTypes) && field.value.isNone <;> rfl
      · rfl

theorem rule_mem_ids_of_checkConstant {d : Field} (here : found ∈ checkConstant v d) :
    found.rule ∈ constants.ids := by
  unfold checkConstant at here
  rcases List.mem_append.mp here with first | misvalued
  · rcases List.mem_append.mp first with misnamed | limit
    · split at misnamed
      · cases misnamed
      · rw [List.mem_singleton.mp misnamed]
        exact List.mem_cons_self
    · split at limit
      · rw [List.mem_singleton.mp limit]
        exact List.mem_cons_of_mem _ List.mem_cons_self
      · cases limit
  · split at misvalued
    · rw [List.mem_singleton.mp misvalued]
      exact List.mem_cons_self
    · cases misvalued

/-- What is found in a member is found by a rule that is on, if the finding can be recorded. -/
theorem mem_findingsIn_of_memberFindings {config : Config} (examined : config.ignores v.own.package = false)
    (mem : m ∈ v.members) (here : found ∈ memberFindings v m) (on : config.enables found.rule = true) :
    found ∈ findingsIn config v := by
  have enabled {r : Rule} (listed : r ∈ allRules) (reports : found.rule ∈ r.ids) : r ∈ enabledRules config :=
    List.mem_filter.mpr ⟨listed, List.any_eq_true.mpr ⟨found.rule, reports, on⟩⟩
  rw [findingsIn, examined, if_neg Bool.false_ne_true]
  rcases mem_exceptions_or_constants_iff.mpr ⟨m, mem, here⟩ with byExceptions | byConstants
  · have reports : found.rule ∈ exceptions.ids := by
      obtain ⟨method, -, rfl⟩ := List.mem_map.mp byExceptions
      exact List.mem_singleton.mpr rfl
    exact List.mem_flatMap.mpr ⟨exceptions, enabled (by simp [allRules]) reports, byExceptions⟩
  · have reports : found.rule ∈ constants.ids := by
      have inClass := byConstants
      rw [constants_check] at inClass
      split at inClass
      · cases inClass
      · obtain ⟨d, -, here⟩ := List.mem_flatMap.mp inClass
        exact rule_mem_ids_of_checkConstant here
    exact List.mem_flatMap.mpr ⟨constants, enabled (by simp [allRules]) reports, byConstants⟩

end

namespace Violation

/-- The violation names the class of the view and the member, and has the rule and the message of what is
found in the member. -/
def TriggeredBy (m : Member) (v : ClassView) (violation : Violation) : Prop :=
  violation.className = v.own.fullname ∧ violation.member = some m.ident ∧
    ∃ found ∈ memberFindings v m, violation.rule = found.rule ∧ violation.message = found.message

/-- What a member triggers in one view has the signature of what the same member triggers in another view of
the full name. -/
theorem TriggeredBy.exists_alike {m m' : Member} {v w : ClassView} {violation : Violation}
    (triggered : violation.TriggeredBy m v) {f : Origin → Origin} (same : m'.mapOrigin f = m.mapOrigin f)
    (fullname : w.own.fullname = v.own.fullname) :
    ∃ found ∈ memberFindings w m', found.rule = violation.rule ∧ found.violation.signature = violation.signature := by
  obtain ⟨className, member, found, here, rule, message⟩ := triggered
  have ident : m'.ident = m.ident := by
    rw [← m'.ident_mapOrigin f, same, m.ident_mapOrigin f]
  refine ⟨{ found with subject := w.own, member := some m' }, ?_, rule.symm, ?_⟩
  · rw [memberFindings_alike same fullname]
    exact List.mem_map_of_mem here
  · rw [Finding.signature_violation, violation.signature_eq, className, member, rule, message, ← fullname, ← ident]
    rfl

end Violation

/-! ## The earlier examination -/

section

variable {current base previous previousBase : List Class} {c b b' : Class}

/-- A class of the earlier baseline is in view in the earlier examination if the class of its name had a
counterpart in the later one: beside the earlier class of that name, or alone. -/
theorem exists_earlier_view (hc : Increasing current) (hb : Increasing base) (hp : Increasing previous)
    (hpb : Increasing previousBase) (memC : c ∈ current) (memB : b ∈ base) (counterpart : b.className = c.className)
    (memB' : b' ∈ previousBase) (name : b'.className = c.className) :
    ∃ view ∈ (Walk.of previous (some previousBase) (Walk.of current (some base) []).classesWithBase).views,
      view.own.className = c.className ∧ ∀ m ∈ b'.members, m ∈ view.members := by
  have known : (Walk.of current (some base) []).classesWithBase =
      (current.filter fun c => (named? c.className base).isSome).map Class.className := by
    rw [Walk.classesWithBase, Walk.visits_eq_listWalk]
    exact hc.classesWithBase_eq hb .nil
  have inOrder : Increasing (Walk.of current (some base) []).classesWithBase := by
    rw [known]
    exact increasing_map_className.mpr (hc.filter _)
  have isKnown : c.className ∈ (Walk.of current (some base) []).classesWithBase := by
    rw [known]
    refine List.mem_map_of_mem (List.mem_filter.mpr ⟨memC, ?_⟩)
    rw [← counterpart, show named? b.className base = some b from hb.named?_of_mem memB]
    rfl
  have found : named? c.className previousBase = some b' := by
    rw [← name]
    exact hpb.named?_of_mem memB'
  have visited {v : Visit}
      (mem : v ∈ listWalk (Walk.of current (some base) []).classesWithBase previousBase previous) :
      v.view ∈ (Walk.of previous (some previousBase) (Walk.of current (some base) []).classesWithBase).views := by
    rw [Walk.views, Walk.visits_eq_listWalk]
    exact List.mem_map_of_mem mem
  by_cases present : c.className ∈ previous.map Class.className
  · obtain ⟨p, memP, same⟩ := List.mem_map.mp present
    have mem : Visit.current p (some b') ∈ listWalk _ previousBase previous :=
      (hp.mem_listWalk hpb inOrder).mpr (.inl ⟨p, memP, by rw [same, found]⟩)
    exact ⟨⟨p, some b'⟩, visited mem, same, fun m mem => ClassView.members_counterpart mem⟩
  · have absent : c.className ∈ absentFrom previous (Walk.of current (some base) []).classesWithBase :=
      List.mem_filter.mpr ⟨isKnown, decide_eq_true present⟩
    have mem : Visit.known b' ∈ listWalk _ previousBase previous :=
      (hp.mem_listWalk hpb inOrder).mpr (.inr ⟨c.className, absent, b', found, rfl⟩)
    exact ⟨⟨b', none⟩, visited mem, name, fun m mem => ClassView.members_own none mem⟩

end

/-- **What a member of an unchanged baseline triggers is never new.** Take a current class with a
counterpart, and a member of the counterpart that the class of that name in the earlier baseline has too.
Each violation that is reported is found in a view of the current walk, and if that is the view of the
class, the member does not trigger it. Nor does the member trigger what is found in other classes of that
full name, unless the package of the class is not examined. -/
theorem inherited_not_reported (config : Config) {current baseCurrent previous basePrevious : Dump}
    (hc : Increasing current.contents.classes) (hb : Increasing baseCurrent.contents.classes)
    (hp : Increasing previous.contents.classes) (hpb : Increasing basePrevious.contents.classes)
    {c b b' : Class} (memC : c ∈ current.contents.classes)
    (memB : b ∈ baseCurrent.contents.classes) (counterpart : b.package = c.package ∧ b.fullname = c.fullname)
    (memB' : b' ∈ basePrevious.contents.classes) (counterpart' : b'.package = c.package ∧ b'.fullname = c.fullname) :
    ∀ m ∈ b.members, ∀ m' ∈ b'.members, m'.mapOrigin (fun _ => m.origin) = m →
    ∀ v ∈ (check config ⟨current, some baseCurrent, some previous, some basePrevious⟩).violations,
      (∃ view ∈ (examinedWalk current (some baseCurrent) []).views,
        (∃ found ∈ findingsIn config view, v = found.violation) ∧
          (view.own = c → ¬ v.TriggeredBy m ⟨c, some b⟩)) ∧
      (config.ignores c.package = false → ¬ v.TriggeredBy m ⟨c, some b⟩) := by
  intro m _ m' memM' same v reported
  obtain ⟨mem, new⟩ := (mem_violations_check rfl).mp reported
  obtain ⟨view, memView, found, here, on, rfl⟩ := found_of_mem_examine mem
  have notTriggered (examined : config.ignores c.package = false) :
      ¬ found.violation.TriggeredBy m ⟨c, some b⟩ := by
    intro triggered
    have name : b.className = c.className := ClassName.ext_fullname counterpart.1 counterpart.2
    have name' : b'.className = c.className := ClassName.ext_fullname counterpart'.1 counterpart'.2
    obtain ⟨view', memView', own, members⟩ := exists_earlier_view hc hb hp hpb memC memB name memB' name'
    have moved : m'.mapOrigin (fun _ => m.origin) = m.mapOrigin fun _ => m.origin := by
      rw [same]
      cases m <;> rfl
    obtain ⟨found', here', rule, signature⟩ :=
      triggered.exists_alike (w := view') moved (congrArg ClassName.fullname own)
    have examined' : config.ignores view'.own.package = false := by
      rw [show view'.own.package = c.package from congrArg ClassName.package own]
      exact examined
    have rule : found'.rule = found.rule := rule
    have recorded := mem_findingsIn_of_memberFindings examined' (members m' memM') here' (rule ▸ on)
    apply new
    rw [← signature]
    exact signature_mem_examine memView' recorded (rule ▸ on)
  refine ⟨⟨view, memView, ⟨found, here, rfl⟩, ?_⟩, notTriggered⟩
  -- nothing is found in a class whose package is not examined
  rintro rfl
  apply notTriggered
  rw [← Bool.not_eq_true]
  intro ignored
  rw [findingsIn, if_pos ignored] at here
  cases here

/-- A method that throws a type that says nothing. -/
def throwingMethod (line : Nat) : Method :=
  { kind := .method, modifiers := .ofList ["method", "public"], annotations := [], type := "void", name := "f",
    parameters := [], throws := ["java.lang.Exception"], value := none, owner := "p.X",
    origin := { line, raw := "method public void f() throws java.lang.Exception", blame := none } }

/-- The class `p.X` with these methods. -/
def classX (line : Nat) (methods : List Method) : Class :=
  { modifiers := .ofList ["class", "public"], annotations := [], declared := "X", superclasses := [],
    interfaces := [], package := "p", origin := { line, raw := "public class X", blame := none }, format := .v1,
    methods, fields := [] }

/-- A dump of the package `p`. -/
def packageP (classes : String) : Dump := ⟨"api.txt", "package p \x7b\n" ++ classes ++ "\x7d\n"⟩

def textX (members : String) : String := "  public class X \x7b\n" ++ members ++ "  \x7d\n"

def dumpX : Dump := packageP (textX "")

def baseX : Dump := packageP (textX "    method public void f() throws java.lang.Exception;\n")

/-- The baseline as it was: the same class, lower down. -/
def earlierBaseX : Dump := packageP ("\n" ++ textX "    method public void f() throws java.lang.Exception;\n")

/-- A class that is new is judged by a method of its counterpart, and no violation of that is reported. -/
theorem inherited_not_reported_classX :
    Increasing dumpX.contents.classes ∧ Increasing baseX.contents.classes ∧
      Increasing (packageP "").contents.classes ∧ Increasing earlierBaseX.contents.classes ∧
      classX 2 [] ∈ dumpX.contents.classes ∧ classX 2 [throwingMethod 3] ∈ baseX.contents.classes ∧
      classX 3 [throwingMethod 4] ∈ earlierBaseX.contents.classes ∧
      (∃ v ∈ (examine {} dumpX (some baseX) []).violations,
        v.TriggeredBy (.method (throwingMethod 3)) ⟨classX 2 [], some (classX 2 [throwingMethod 3])⟩) ∧
      ∀ v ∈ (check {} ⟨dumpX, some baseX, some (packageP ""), some earlierBaseX⟩).violations,
        ¬ v.TriggeredBy (.method (throwingMethod 3)) ⟨classX 2 [], some (classX 2 [throwingMethod 3])⟩ := by
  have current : dumpX.contents.classes = [classX 2 []] := by decide +kernel
  have base : baseX.contents.classes = [classX 2 [throwingMethod 3]] := by decide +kernel
  have previous : (packageP "").contents.classes = [] := by decide +kernel
  have earlierBase : earlierBaseX.contents.classes = [classX 3 [throwingMethod 4]] := by decide +kernel
  have hc : Increasing dumpX.contents.classes := current ▸ List.pairwise_singleton _ _
  have hb : Increasing baseX.contents.classes := base ▸ List.pairwise_singleton _ _
  have hp : Increasing (packageP "").contents.classes := previous ▸ .nil
  have hpb : Increasing earlierBaseX.contents.classes := earlierBase ▸ List.pairwise_singleton _ _
  have memC : classX 2 [] ∈ dumpX.contents.classes := current ▸ List.mem_singleton.mpr rfl
  have memB : classX 2 [throwingMethod 3] ∈ baseX.contents.classes := base ▸ List.mem_singleton.mpr rfl
  have memB' : classX 3 [throwingMethod 4] ∈ earlierBaseX.contents.classes :=
    earlierBase ▸ List.mem_singleton.mpr rfl
  refine ⟨hc, hb, hp, hpb, memC, memB, memB', ?_, ?_⟩
  · have found : ∃ v ∈ (examine {} dumpX (some baseX) []).violations,
        v.className = "p.X" ∧ v.member = some (throwingMethod 3).ident ∧ v.rule = "S1" ∧
          v.message = "Methods must not throw generic exceptions" := by decide +kernel
    obtain ⟨v, mem, className, member, rule, message⟩ := found
    exact ⟨v, mem, className, member, _, List.mem_singleton.mpr rfl, rule, message⟩
  · intro v mem
    have kept := inherited_not_reported {} hc hb hp hpb memC memB ⟨rfl, rfl⟩ memB' ⟨rfl, rfl⟩
      (.method (throwingMethod 3)) List.mem_cons_self (.method (throwingMethod 4)) List.mem_cons_self rfl
    exact (kept v mem).2 (by decide +kernel)

end SignatureLint
