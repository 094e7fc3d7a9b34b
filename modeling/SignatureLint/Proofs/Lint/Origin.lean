import Mathlib.Data.List.Basic
import SignatureLint.Proofs.Dump.Origin
import SignatureLint.Proofs.Lint.Report

/-!
# Rules and where a declaration stood

Each rule finds the same in a class wherever the class and its members stood: it commutes with
`ClassView.mapOrigin` (`check_mapOrigin`). The signature of a finding forgets the origins, and so does the
fingerprint of a class if the texts of the declarations are kept; so views that are alike have the same
signatures (`exists_signature_of_alike`) and are noticed alike (`noticed_alike`).
-/

namespace SignatureLint

/-! ## Views and findings -/

namespace ClassView

def mapOrigin (f : Origin → Origin) (v : ClassView) : ClassView :=
  { own := v.own.mapOrigin f, base := v.base.map (Class.mapOrigin f) }

variable (f : Origin → Origin) (v : ClassView)

theorem methods_mapOrigin : (v.mapOrigin f).methods = v.methods.map (Method.mapOrigin f) := by
  obtain ⟨own, base⟩ := v
  cases base with
  | none => simp only [methods, mapOrigin, Class.mapOrigin, Option.map_none, Option.getD_none, List.append_nil]
  | some b => simp only [methods, mapOrigin, Class.mapOrigin, Option.map_some, Option.getD_some, List.map_append]

theorem fields_mapOrigin : (v.mapOrigin f).fields = v.fields.map (Field.mapOrigin f) := by
  obtain ⟨own, base⟩ := v
  cases base with
  | none => simp only [fields, mapOrigin, Class.mapOrigin, Option.map_none, Option.getD_none, List.append_nil]
  | some b => simp only [fields, mapOrigin, Class.mapOrigin, Option.map_some, Option.getD_some, List.map_append]

/-- A choice among the methods that does not ask where they stood. -/
theorem filter_methods_mapOrigin {p : Method → Bool} (ignores : ∀ m, p (m.mapOrigin f) = p m) :
    (v.mapOrigin f).methods.filter p = (v.methods.filter p).map (Method.mapOrigin f) := by
  rw [methods_mapOrigin, List.filter_map]
  congr 1
  apply List.filter_congr
  intro m _
  exact ignores m

theorem plainMethods_mapOrigin : (v.mapOrigin f).plainMethods = v.plainMethods.map (Method.mapOrigin f) :=
  filter_methods_mapOrigin f v fun _ => rfl

theorem constructors_mapOrigin : (v.mapOrigin f).constructors = v.constructors.map (Method.mapOrigin f) :=
  filter_methods_mapOrigin f v fun _ => rfl

/-- Whether there is a plain method that passes a test which does not ask where it stood. -/
theorem any_plainMethods_mapOrigin {p : Method → Bool} (ignores : ∀ m, p (m.mapOrigin f) = p m) :
    (v.mapOrigin f).plainMethods.any p = v.plainMethods.any p := by
  rw [plainMethods_mapOrigin, List.any_map]
  congr 1
  funext m
  exact ignores m

end ClassView

namespace Member

def mapOrigin (f : Origin → Origin) : Member → Member
  | .method m => .method (m.mapOrigin f)
  | .field d => .field (d.mapOrigin f)

theorem ident_mapOrigin (f : Origin → Origin) (m : Member) : (m.mapOrigin f).ident = m.ident := by
  cases m with
  | method m => rfl
  | field d => rfl

end Member

namespace Finding

def mapOrigin (f : Origin → Origin) (found : Finding) : Finding :=
  { found with subject := found.subject.mapOrigin f, member := found.member.map (Member.mapOrigin f) }

theorem signature_violation (found : Finding) :
    found.violation.signature =
      violationSignature found.subject.fullname (found.member.map Member.ident) found.rule found.message := rfl

/-- A signature does not tell where the finding stood. -/
theorem signature_mapOrigin (f : Origin → Origin) (found : Finding) :
    (found.mapOrigin f).violation.signature = found.violation.signature := by
  have member : (found.member.map (Member.mapOrigin f)).map Member.ident = found.member.map Member.ident := by
    cases found.member with
    | none => rfl
    | some m => exact congrArg some (m.ident_mapOrigin f)
  rw [signature_violation, signature_violation, ← member]
  rfl

end Finding

/-! ## Rules -/

namespace Rules

variable (f : Origin → Origin) (v : ClassView)

theorem parcelable_mapOrigin :
    parcelable.check (v.mapOrigin f) = (parcelable.check v).map (Finding.mapOrigin f) := by
  have members : hasParcelableMembers (v.mapOrigin f) = hasParcelableMembers v := by
    simp only [hasParcelableMembers]
    rw [v.any_plainMethods_mapOrigin f fun _ => rfl, v.any_plainMethods_mapOrigin f fun _ => rfl,
      v.fields_mapOrigin, List.any_map]
    rfl
  have made : parcelConstructors (v.mapOrigin f) = (parcelConstructors v).map (Method.mapOrigin f) := by
    rw [parcelConstructors, v.constructors_mapOrigin, List.filter_map]
    rfl
  show (if v.own.leadInterface = some "android.os.Parcelable" then _ else _) =
    List.map _ (if v.own.leadInterface = some "android.os.Parcelable" then _ else _)
  split
  · rw [members, made, List.map_append, List.map_append, List.map_map, List.map_map]
    congr 1
    congr 1
    · cases hasParcelableMembers v <;> rfl
    · show (if v.own.modifiers.has "final" then _ else _) = List.map _ (if v.own.modifiers.has "final" then _ else _)
      cases v.own.modifiers.has "final" <;> rfl
  · rfl

theorem checkConstant_mapOrigin (d : Field) :
    checkConstant (v.mapOrigin f) (d.mapOrigin f) = (checkConstant v d).map (Finding.mapOrigin f) := by
  unfold checkConstant
  rw [List.map_append, List.map_append]
  congr 1
  · congr 1
    · show (if isConstantName d.name then _ else _) = _
      cases isConstantName d.name <;> rfl
    · show (if d.type != "java.lang.String" && namesLimit d.name then _ else _) = _
      cases d.type != "java.lang.String" && namesLimit d.name <;> rfl
  · show (if decide (d.type ∈ valuedTypes) && d.value.isNone then _ else _) = _
    cases decide (d.type ∈ valuedTypes) && d.value.isNone <;> rfl

theorem constants_mapOrigin : constants.check (v.mapOrigin f) = (constants.check v).map (Finding.mapOrigin f) := by
  show (if keepsOwnConstants v.own.fullname then _ else _) =
    List.map _ (if keepsOwnConstants v.own.fullname then _ else _)
  split
  · rfl
  · have chosen :
        (v.mapOrigin f).fields.filter isConstant = (v.fields.filter isConstant).map (Field.mapOrigin f) := by
      rw [v.fields_mapOrigin, List.filter_map]
      rfl
    rw [chosen, List.flatMap_map, List.map_flatMap]
    congr 1
    funext d
    exact checkConstant_mapOrigin f v d

theorem exceptions_mapOrigin : exceptions.check (v.mapOrigin f) = (exceptions.check v).map (Finding.mapOrigin f) := by
  show List.map _ ((v.mapOrigin f).methods.filter throwsGeneric) =
    List.map _ (List.map _ (v.methods.filter throwsGeneric))
  rw [v.filter_methods_mapOrigin f fun _ => rfl, List.map_map, List.map_map]
  rfl

theorem overrides_mapOrigin (type name : String) (parameterTypes : List String) :
    overrides (v.mapOrigin f) type name parameterTypes = overrides v type name parameterTypes :=
  v.any_plainMethods_mapOrigin f fun _ => rfl

theorem equality_mapOrigin : equality.check (v.mapOrigin f) = (equality.check v).map (Finding.mapOrigin f) := by
  simp only [equality, overrides_mapOrigin]
  split
  · rfl
  · rfl

theorem callbacks_mapOrigin : callbacks.check (v.mapOrigin f) = (callbacks.check v).map (Finding.mapOrigin f) := by
  have fullname : (v.mapOrigin f).own.fullname = v.own.fullname := rfl
  have name : (v.mapOrigin f).own.name = v.own.name := rfl
  simp only [callbacks, fullname, name]
  split
  · rfl
  · simp only [List.map_append]
    refine congrArg₂ (· ++ ·) ?_ ?_
    · split
      · rfl
      · rfl
    · split
      · rfl
      · rfl

end Rules

variable (f : Origin → Origin)

/-- Each rule finds the same wherever the class and its members stood. -/
theorem check_mapOrigin {r : Rule} (mem : r ∈ allRules) (v : ClassView) :
    r.check (v.mapOrigin f) = (r.check v).map (Finding.mapOrigin f) := by
  simp only [allRules, List.mem_cons, List.not_mem_nil, or_false] at mem
  rcases mem with rfl | rfl | rfl | rfl | rfl
  · exact Rules.parcelable_mapOrigin f v
  · exact Rules.constants_mapOrigin f v
  · exact Rules.exceptions_mapOrigin f v
  · exact Rules.equality_mapOrigin f v
  · exact Rules.callbacks_mapOrigin f v

theorem findingsIn_mapOrigin (config : Config) (v : ClassView) :
    findingsIn config (v.mapOrigin f) = (findingsIn config v).map (Finding.mapOrigin f) := by
  show (if config.ignores v.own.package then _ else _) = List.map _ (if config.ignores v.own.package then _ else _)
  split
  · rfl
  · rw [List.map_flatMap]
    apply List.flatMap_congr
    intro r mem
    exact check_mapOrigin f (List.mem_filter.mp mem).1 v

/-! ## Views that are alike -/

section

variable {f}

/-- What is found in a view is found, by signature, in each view that is alike. -/
theorem exists_signature_of_alike {config : Config} {v w : ClassView} (alike : v.mapOrigin f = w.mapOrigin f)
    {found : Finding} (mem : found ∈ findingsIn config v) :
    ∃ found' ∈ findingsIn config w,
      found'.rule = found.rule ∧ found'.violation.signature = found.violation.signature := by
  have same : (findingsIn config v).map (Finding.mapOrigin f) = (findingsIn config w).map (Finding.mapOrigin f) := by
    rw [← findingsIn_mapOrigin, ← findingsIn_mapOrigin, alike]
  have mapped : found.mapOrigin f ∈ (findingsIn config w).map (Finding.mapOrigin f) := by
    rw [← same]
    exact List.mem_map_of_mem mem
  obtain ⟨found', mem', equal⟩ := List.mem_map.mp mapped
  have rule : (found'.mapOrigin f).rule = (found.mapOrigin f).rule := congrArg Finding.rule equal
  refine ⟨found', mem', rule, ?_⟩
  rw [← Finding.signature_mapOrigin f found', ← Finding.signature_mapOrigin f found, equal]

variable (keeps : ∀ o : Origin, (f o).raw = o.raw)

include keeps

/-- A fingerprint tells no more of an origin than the text of the declaration. -/
theorem Class.fingerprint_mapOrigin (c : Class) : (c.mapOrigin f).fingerprint = c.fingerprint := by
  have methods : (c.mapOrigin f).methods.map (fun m => m.origin.raw) = c.methods.map fun m => m.origin.raw := by
    rw [Class.mapOrigin, List.map_map]
    apply List.map_congr_left
    intro m _
    exact keeps m.origin
  have fields : (c.mapOrigin f).fields.map (fun d => d.origin.raw) = c.fields.map fun d => d.origin.raw := by
    rw [Class.mapOrigin, List.map_map]
    apply List.map_congr_left
    intro d _
    exact keeps d.origin
  have header : (c.mapOrigin f).origin.raw = c.origin.raw := keeps c.origin
  rw [fingerprint, fingerprint, fingerprintText, fingerprintText, methods, fields, header]

/-- Walks over views that are alike notice the same. -/
theorem noticed_alike {w w' : Walk}
    (alike : w.views.map (ClassView.mapOrigin f) = w'.views.map (ClassView.mapOrigin f)) :
    noticedIn w = noticedIn w' := by
  have entries (views : List ClassView) :
      (views.map (ClassView.mapOrigin f)).map (fun v => (v.own.fullname, v.own.fingerprint)) =
        views.map fun v => (v.own.fullname, v.own.fingerprint) := by
    rw [List.map_map]
    apply List.map_congr_left
    intro v _
    show ((v.own.mapOrigin f).fullname, (v.own.mapOrigin f).fingerprint) = _
    rw [v.own.fingerprint_mapOrigin keeps]
    rfl
  rw [noticedIn, noticedIn, ← entries, alike, entries]

end

end SignatureLint
