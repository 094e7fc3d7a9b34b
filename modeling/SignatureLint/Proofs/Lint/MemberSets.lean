import SignatureLint.Proofs.Lint.Origin
import SignatureLint.Proofs.Lint.Recorded

/-!
# Members as sets

Rules see the members of a class and those of its counterpart alike, and they ask of the members of a view only
which there are. So it does not matter which of them the class has itself and which its counterpart, in what order
they are declared, or how often: views with the same sets of members (`ClassView.SameMembers`) have findings of the
same signatures, rule by rule (`recordAll_sameMembers`). A member is taken as its line declares it, without the
class it belongs to and where it stood.

Each rule either asks whether there is a member that passes a test (`SameMembers.any_methods`), or finds something
in every member that passes one (`SameMembers.exists_method`).
-/

namespace SignatureLint

/-- A test of what items are mapped to is passed by one of them if it is passed by one of other items that are mapped
to the same. -/
theorem any_eq_any_of_mem_map {α β : Type} {f : α → β} {xs ys : List α} (same : ∀ b, b ∈ xs.map f ↔ b ∈ ys.map f)
    (p : β → Bool) : (xs.any fun a => p (f a)) = ys.any fun a => p (f a) := by
  have mapped (zs : List α) : (zs.any fun a => p (f a)) = (zs.map f).any p := List.any_map.symm
  rw [mapped, mapped, Bool.eq_iff_iff, List.any_eq_true, List.any_eq_true]
  exact exists_congr fun b => and_congr_left fun _ => same b

namespace ClassView

/-- The classes in view say the same of themselves, and have, each with its counterpart, the same members as far as
their lines declare them. The simple name of a class is a part of its full name. -/
structure SameMembers (v w : ClassView) : Prop where
  fullname : v.own.fullname = w.own.fullname
  modifiers : v.own.modifiers = w.own.modifiers
  leadInterface : v.own.leadInterface = w.own.leadInterface
  methods : ∀ m, m ∈ v.methods.map Method.toMethodSignature ↔ m ∈ w.methods.map Method.toMethodSignature
  fields : ∀ f, f ∈ v.fields.map Field.toFieldSignature ↔ f ∈ w.fields.map Field.toFieldSignature

namespace SameMembers

variable {v w : ClassView} (same : v.SameMembers w)

include same

theorem symm : w.SameMembers v where
  fullname := same.fullname.symm
  modifiers := same.modifiers.symm
  leadInterface := same.leadInterface.symm
  methods m := (same.methods m).symm
  fields f := (same.fields f).symm

theorem name : v.own.name = w.own.name := by
  rw [Class.name, Class.name, same.fullname]

theorem exists_method {m : Method} (mem : m ∈ v.methods) :
    ∃ m' ∈ w.methods, m'.toMethodSignature = m.toMethodSignature :=
  List.mem_map.mp ((same.methods _).mp (List.mem_map_of_mem mem))

theorem exists_field {f : Field} (mem : f ∈ v.fields) : ∃ f' ∈ w.fields, f'.toFieldSignature = f.toFieldSignature :=
  List.mem_map.mp ((same.fields _).mp (List.mem_map_of_mem mem))

/-- Whether there is a method that passes a test of what its line declares. -/
theorem any_methods (p : MethodSignature → Bool) :
    (v.methods.any fun m => p m.toMethodSignature) = w.methods.any fun m => p m.toMethodSignature :=
  any_eq_any_of_mem_map same.methods p

theorem any_plainMethods (p : MethodSignature → Bool) :
    (v.plainMethods.any fun m => p m.toMethodSignature) = w.plainMethods.any fun m => p m.toMethodSignature := by
  rw [plainMethods, plainMethods, List.any_filter, List.any_filter]
  exact same.any_methods fun m => decide (m.kind = .method) && p m

theorem any_fields (p : FieldSignature → Bool) :
    (v.fields.any fun f => p f.toFieldSignature) = w.fields.any fun f => p f.toFieldSignature :=
  any_eq_any_of_mem_map same.fields p

end SameMembers

end ClassView

/-! ## Findings that say the same -/

namespace Finding

/-- Two findings of one severity, rule and message, about classes of one full name and members of one identity. -/
structure SaysSame (f g : Finding) : Prop where
  severity : f.severity = g.severity
  rule : f.rule = g.rule
  message : f.message = g.message
  fullname : f.subject.fullname = g.subject.fullname
  ident : f.member.map Member.ident = g.member.map Member.ident

theorem SaysSame.signature_eq {f g : Finding} (alike : f.SaysSame g) :
    f.violation.signature = g.violation.signature := by
  rw [signature_violation, signature_violation, alike.fullname, alike.ident, alike.rule, alike.message]

end Finding

namespace Member

theorem ident_method_eq {m m' : Method} (equal : m'.toMethodSignature = m.toMethodSignature) :
    (some (Member.method m)).map ident = (some (Member.method m')).map ident :=
  congrArg (fun s => some (MethodSignature.ident s)) equal.symm

theorem ident_field_eq {f f' : Field} (equal : f'.toFieldSignature = f.toFieldSignature) :
    (some (Member.field f)).map ident = (some (Member.field f')).map ident :=
  congrArg (fun s => some (FieldSignature.ident s)) equal.symm

end Member

namespace ClassView

variable {v w : ClassView}

theorem SameMembers.saysSame (same : v.SameMembers w) (severity : Severity) {member member' : Option Member}
    (ident : member.map Member.ident = member'.map Member.ident) (rule message : String) :
    (v.finding severity member rule message).SaysSame (w.finding severity member' rule message) :=
  ⟨rfl, rfl, rfl, same.fullname, ident⟩

end ClassView

/-! ## Rules -/

namespace Rules

open ClassView (SameMembers)

variable {v w : ClassView} (same : v.SameMembers w) {f : Finding}

include same

theorem hasParcelableMembers_sameMembers : hasParcelableMembers v = hasParcelableMembers w := by
  have creator := same.any_fields fun d => decide (d.name = "CREATOR")
  have write := same.any_plainMethods fun m => decide (m.name = "writeToParcel")
  have describe := same.any_plainMethods fun m => decide (m.name = "describeContents")
  rw [hasParcelableMembers, hasParcelableMembers, creator, write, describe]

theorem exists_parcelConstructor {m : Method} (mem : m ∈ parcelConstructors v) :
    ∃ m' ∈ parcelConstructors w, m'.toMethodSignature = m.toMethodSignature := by
  simp only [parcelConstructors, ClassView.constructors, List.mem_filter, decide_eq_true_eq] at mem ⊢
  obtain ⟨⟨mem, constructor⟩, parcel⟩ := mem
  obtain ⟨m', mem', equal⟩ := same.exists_method mem
  exact ⟨m', ⟨⟨mem', equal ▸ constructor⟩, equal ▸ parcel⟩, equal⟩

theorem parcelable_sameMembers (found : f ∈ parcelable.check v) : ∃ g ∈ parcelable.check w, f.SaysSame g := by
  simp only [parcelable, same.leadInterface, same.modifiers, hasParcelableMembers_sameMembers same] at found ⊢
  split at found
  next implements =>
    simp only [if_pos implements, List.mem_append, List.mem_ite_nil_left, List.mem_singleton, List.mem_map] at found ⊢
    rcases found with (⟨lacks, rfl⟩ | ⟨open_, rfl⟩) | ⟨m, mem, rfl⟩
    · exact ⟨_, .inl (.inl ⟨lacks, rfl⟩), same.saysSame _ rfl _ _⟩
    · exact ⟨_, .inl (.inr ⟨open_, rfl⟩), same.saysSame _ rfl _ _⟩
    · obtain ⟨m', mem', equal⟩ := exists_parcelConstructor same mem
      exact ⟨_, .inr ⟨m', mem', rfl⟩, same.saysSame _ (Member.ident_method_eq equal) _ _⟩
  next => cases found

theorem checkConstant_sameMembers {d d' : Field} (equal : d'.toFieldSignature = d.toFieldSignature)
    (found : f ∈ checkConstant v d) : ∃ g ∈ checkConstant w d', f.SaysSame g := by
  have name : d'.name = d.name := congrArg FieldSignature.name equal
  have type : d'.type = d.type := congrArg FieldSignature.type equal
  have value : d'.value = d.value := congrArg FieldSignature.value equal
  have ident := Member.ident_field_eq equal
  simp only [checkConstant, name, type, value, List.mem_append, List.mem_ite_nil_left, List.mem_ite_nil_right,
    List.mem_singleton] at found ⊢
  rcases found with (⟨misnamed, rfl⟩ | ⟨limit, rfl⟩) | ⟨valueless, rfl⟩
  · exact ⟨_, .inl (.inl ⟨misnamed, rfl⟩), same.saysSame _ ident _ _⟩
  · exact ⟨_, .inl (.inr ⟨limit, rfl⟩), same.saysSame _ ident _ _⟩
  · exact ⟨_, .inr ⟨valueless, rfl⟩, same.saysSame _ ident _ _⟩

theorem constants_sameMembers (found : f ∈ constants.check v) : ∃ g ∈ constants.check w, f.SaysSame g := by
  simp only [constants, same.fullname] at found ⊢
  split at found
  next => cases found
  next checked =>
    rw [if_neg checked]
    obtain ⟨d, mem, found⟩ := List.mem_flatMap.mp found
    obtain ⟨mem, constant⟩ := List.mem_filter.mp mem
    obtain ⟨d', mem', equal⟩ := same.exists_field mem
    have constant' : isConstant d' = true := by
      rw [isConstant, equal]
      exact constant
    obtain ⟨g, found', alike⟩ := checkConstant_sameMembers same equal found
    exact ⟨g, List.mem_flatMap.mpr ⟨d', List.mem_filter.mpr ⟨mem', constant'⟩, found'⟩, alike⟩

theorem exceptions_sameMembers (found : f ∈ exceptions.check v) : ∃ g ∈ exceptions.check w, f.SaysSame g := by
  obtain ⟨m, mem, rfl⟩ := List.mem_map.mp found
  obtain ⟨mem, throws⟩ := List.mem_filter.mp mem
  obtain ⟨m', mem', equal⟩ := same.exists_method mem
  have throws' : throwsGeneric m' = true := by
    rw [throwsGeneric, equal]
    exact throws
  exact ⟨_, List.mem_map_of_mem (List.mem_filter.mpr ⟨mem', throws'⟩),
    same.saysSame _ (Member.ident_method_eq equal) _ _⟩

theorem overrides_sameMembers (type name : String) (parameterTypes : List String) :
    overrides v type name parameterTypes = overrides w type name parameterTypes :=
  same.any_plainMethods fun m => !m.modifiers.has "static" && m.hasShape type name parameterTypes

theorem equality_sameMembers (found : f ∈ equality.check v) : ∃ g ∈ equality.check w, f.SaysSame g := by
  simp only [equality, overrides_sameMembers same, List.mem_ite_nil_left, List.mem_singleton] at found ⊢
  obtain ⟨one, rfl⟩ := found
  exact ⟨_, ⟨one, rfl⟩, same.saysSame _ rfl _ _⟩

theorem callbacks_sameMembers (found : f ∈ callbacks.check v) : ∃ g ∈ callbacks.check w, f.SaysSame g := by
  simp only [callbacks, same.fullname, same.name] at found ⊢
  split at found
  next => cases found
  next checked =>
    simp only [if_neg checked, List.mem_append, List.mem_ite_nil_right, List.mem_singleton] at found ⊢
    rcases found with ⟨plural, rfl⟩ | ⟨observer, rfl⟩
    · exact ⟨_, .inl ⟨plural, rfl⟩, same.saysSame _ rfl _ _⟩
    · exact ⟨_, .inr ⟨observer, rfl⟩, same.saysSame _ rfl _ _⟩

end Rules

/-- The signatures on record are those of the findings whose rules are on. -/
theorem Findings.mem_signatures_recordAll {config : Config} {findings : List Finding} {signature : String} :
    signature ∈ (empty.recordAll config findings).report.violations.map Violation.signature ↔
      ∃ f ∈ findings, config.enables f.rule = true ∧ f.violation.signature = signature := by
  rw [← hasSeen_recordAll, hasSeen, List.any_eq_true, List.mem_map]
  simp only [beq_iff_eq]
  exact exists_congr fun v => and_congr_left fun _ => mem_report

section

variable {v w : ClassView} (same : v.SameMembers w) {r : Rule} (listed : r ∈ allRules)

include same listed

/-- What a rule finds in a view, it finds in each view with the same members. -/
theorem exists_saysSame {f : Finding} (found : f ∈ r.check v) : ∃ g ∈ r.check w, f.SaysSame g := by
  simp only [allRules, List.mem_cons, List.not_mem_nil, or_false] at listed
  rcases listed with rfl | rfl | rfl | rfl | rfl
  · exact Rules.parcelable_sameMembers same found
  · exact Rules.constants_sameMembers same found
  · exact Rules.exceptions_sameMembers same found
  · exact Rules.equality_sameMembers same found
  · exact Rules.callbacks_sameMembers same found

/-- What is recorded for one view is recorded for the other. -/
theorem mem_signatures_sameMembers {config : Config} {signature : String}
    (recorded : signature ∈ (Findings.empty.recordAll config (r.check v)).report.violations.map Violation.signature) :
    signature ∈ (Findings.empty.recordAll config (r.check w)).report.violations.map Violation.signature := by
  rw [Findings.mem_signatures_recordAll] at recorded ⊢
  obtain ⟨f, found, enabled, rfl⟩ := recorded
  obtain ⟨g, found', alike⟩ := exists_saysSame same listed found
  exact ⟨g, found', alike.rule ▸ enabled, alike.signature_eq.symm⟩

end

/-- **Only the set of a view's members counts.** If two classes in view have the same full name, modifiers and lead
interface, and the same members, own and counterpart's taken together, then each rule, checked by itself, has
violations of the same signatures in both, whatever the configuration. -/
theorem recordAll_sameMembers {v w : ClassView} (same : v.SameMembers w) {r : Rule} (listed : r ∈ allRules)
    (config : Config) (signature : String) :
    signature ∈ (Findings.empty.recordAll config (r.check v)).report.violations.map Violation.signature ↔
      signature ∈ (Findings.empty.recordAll config (r.check w)).report.violations.map Violation.signature :=
  ⟨mem_signatures_sameMembers same listed, mem_signatures_sameMembers same.symm listed⟩

/-- A parcelable class `p.X` with these members. -/
def parcelableX (methods : List Method) (fields : List Field) : Class :=
  { modifiers := .ofList ["class", "public"], annotations := [], declared := "X", superclasses := [],
    interfaces := ["android.os.Parcelable"], package := "p",
    origin := { line := 3, raw := "public class X implements android.os.Parcelable", blame := none }, format := .v2,
    methods, fields }

/-- Its constructor from a parcel, on a line. -/
def parcelConstructor (line : Nat) : Method :=
  { kind := .constructor, modifiers := .ofList ["ctor"], annotations := [], type := "ctor", name := "X",
    parameters := [{ type := "android.os.Parcel", name := none, annotations := [], value := none }], throws := [],
    value := none, owner := "p.X", origin := { line, raw := "ctor X(android.os.Parcel)", blame := none } }

/-- A method of it, on a line. -/
def hashMethod (line : Nat) : Method :=
  { kind := .method, modifiers := .ofList ["method"], annotations := [], type := "int", name := "hashCode",
    parameters := [], throws := [], value := none, owner := "p.X",
    origin := { line, raw := "method int hashCode()", blame := none } }

/-- Two members are on both sides, or they are declared in another order and one of them twice. -/
theorem recordAll_sameMembers_split :
    let split : ClassView := ⟨parcelableX [hashMethod 4] [], some (parcelableX [parcelConstructor 4, hashMethod 5] [])⟩
    let whole : ClassView := ⟨parcelableX [parcelConstructor 4, hashMethod 5, parcelConstructor 6] [], none⟩
    let signature := "p.X:ctor-X-android.os.Parcel:FW3:ParcelableinflationisexposedthroughCREATOR,notrawconstructors"
    split.SameMembers whole ∧ Rules.parcelable ∈ allRules ∧
      signature ∈ (Findings.empty.recordAll {} (Rules.parcelable.check split)).report.violations.map
        Violation.signature ∧
      signature ∈ (Findings.empty.recordAll {} (Rules.parcelable.check whole)).report.violations.map
        Violation.signature := by
  intro split whole signature
  have inWhole : ∀ m ∈ split.methods.map Method.toMethodSignature, m ∈ whole.methods.map Method.toMethodSignature := by
    decide
  have inSplit : ∀ m ∈ whole.methods.map Method.toMethodSignature, m ∈ split.methods.map Method.toMethodSignature := by
    decide
  have same : split.SameMembers whole := ⟨rfl, rfl, rfl, fun m => ⟨inWhole m, inSplit m⟩, fun _ => Iff.rfl⟩
  have listed : Rules.parcelable ∈ allRules := List.mem_cons_self
  have found : signature ∈
      (Findings.empty.recordAll {} (Rules.parcelable.check split)).report.violations.map Violation.signature := by
    decide +kernel
  exact ⟨same, listed, found, (recordAll_sameMembers same listed {} signature).mp found⟩

end SignatureLint
