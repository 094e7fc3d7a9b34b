import SignatureLint.Pairing.Order

/-!
# Names in order

The order of classes is linear: it is the order of packages and, inside a package, of full names, and
two names with the same package and the same full name are equal (`ClassName.ext_fullname`). The laws
of a linear order then hold of `ClassName.compare`.

A list is `Increasing` if each name in it comes before all later ones. So a name stands in it at most
once, and what comes before a name stands before what comes after it.
-/

namespace SignatureLint

namespace ClassName

/-- Inside a package, the full name determines the declared name. -/
theorem ext_fullname {a b : ClassName} (package : a.package = b.package) (fullname : a.fullname = b.fullname) :
    a = b := by
  cases a with
  | mk p d =>
    cases b with
    | mk p' d' =>
      cases package
      have same : (p ++ ".").toList ++ d.toList = (p ++ ".").toList ++ d'.toList := by
        rw [← String.toList_append, ← String.toList_append]
        exact congrArg String.toList fullname
      rw [String.toList_injective (List.append_cancel_left same)]

theorem eq_iff {a b : ClassName} : a = b ↔ a.package = b.package ∧ a.fullname = b.fullname := by
  constructor
  · rintro rfl
    exact ⟨rfl, rfl⟩
  · rintro ⟨package, fullname⟩
    exact ext_fullname package fullname

instance : Std.TransCmp compare :=
  inferInstanceAs (Std.TransCmp (compareLex (compareOn ClassName.package) (compareOn ClassName.fullname)))

instance : Std.LawfulEqCmp compare where
  compare_self := Std.ReflCmp.compare_self
  eq_of_compare {a b} same := by
    obtain ⟨package, fullname⟩ := Ordering.then_eq_eq.mp same
    exact ext_fullname (Std.LawfulEqCmp.eq_of_compare package) (Std.LawfulEqCmp.eq_of_compare fullname)

/-- `a` comes before `b`. -/
def Before (a b : ClassName) : Prop := a.compare b = .lt

instance (a b : ClassName) : Decidable (a.Before b) := inferInstanceAs (Decidable (a.compare b = .lt))

theorem Before.trans {a b c : ClassName} (ab : a.Before b) (bc : b.Before c) : a.Before c :=
  Std.TransCmp.lt_trans ab bc

theorem not_before_self (a : ClassName) : ¬ a.Before a := by
  intro before
  have same : a.compare a = .eq := Std.ReflCmp.compare_self
  rw [Before, same] at before
  cases before

theorem Before.asymm {a b : ClassName} (before : a.Before b) : ¬ b.Before a :=
  fun after => not_before_self a (before.trans after)

theorem Before.ne {a b : ClassName} (before : a.Before b) : a ≠ b := by
  rintro rfl
  exact not_before_self a before

theorem compare_eq_lt_iff {a b : ClassName} : a.compare b = .lt ↔ a.Before b := Iff.rfl

theorem compare_eq_gt_iff {a b : ClassName} : a.compare b = .gt ↔ b.Before a := Std.OrientedCmp.gt_iff_lt

theorem compare_eq_eq_iff {a b : ClassName} : a.compare b = .eq ↔ a = b :=
  Std.LawfulEqCmp.compare_eq_iff_eq

end ClassName

/-! ## Increasing lists -/

section

variable {α : Type} [Named α]

/-- Each name comes before all later ones. -/
def Increasing (items : List α) : Prop := items.Pairwise fun a b => (className a).Before (className b)

instance (items : List α) : Decidable (Increasing items) :=
  inferInstanceAs (Decidable (items.Pairwise fun a b => (className a).Before (className b)))

@[simp]
theorem className_class (c : Class) : className c = c.className := rfl

@[simp]
theorem className_className (name : ClassName) : className name = name := rfl

theorem increasing_cons {a : α} {items : List α} :
    Increasing (a :: items) ↔ (∀ b ∈ items, (className a).Before (className b)) ∧ Increasing items :=
  List.pairwise_cons

theorem Increasing.filter {items : List α} (increasing : Increasing items) (keep : α → Bool) :
    Increasing (items.filter keep) := List.Pairwise.filter keep increasing

/-- A list of classes is in order if their names are. -/
theorem increasing_map_className {items : List α} : Increasing (items.map className) ↔ Increasing items :=
  List.pairwise_map

/-- One item at most has a name. -/
theorem Increasing.eq_of_className {items : List α} (increasing : Increasing items) {a b : α} (ha : a ∈ items)
    (hb : b ∈ items) (same : className a = className b) : a = b := by
  induction items with
  | nil => cases ha
  | cons c items ih =>
    obtain ⟨above, rest⟩ := increasing_cons.mp increasing
    rcases List.mem_cons.mp ha with rfl | later
    · rcases List.mem_cons.mp hb with rfl | later'
      · rfl
      · exact absurd same (above b later').ne
    · rcases List.mem_cons.mp hb with rfl | later'
      · exact absurd same.symm (above a later).ne
      · exact ih rest later later'

/-- The item with the package and the full name of `name`. -/
def named? (name : ClassName) (items : List α) : Option α :=
  items.find? fun a => (className a).package = name.package ∧ (className a).fullname = name.fullname

theorem named?_eq_find? (name : ClassName) (items : List α) :
    named? name items = items.find? fun a => className a = name := by
  simp only [named?, ClassName.eq_iff]

theorem named?_eq_some {name : ClassName} {items : List α} {a : α} (found : named? name items = some a) :
    a ∈ items ∧ className a = name := by
  rw [named?_eq_find?] at found
  exact ⟨List.mem_of_find?_eq_some found, by simpa using List.find?_some found⟩

theorem named?_eq_none_iff {name : ClassName} {items : List α} :
    named? name items = none ↔ ∀ a ∈ items, className a ≠ name := by
  simp [named?_eq_find?]

theorem named?_cons {name : ClassName} {a : α} {items : List α} :
    named? name (a :: items) = if className a = name then some a else named? name items := by
  by_cases same : className a = name
  · simp [named?_eq_find?, same]
  · simp [named?_eq_find?, same]

theorem Increasing.named?_of_mem {items : List α} (increasing : Increasing items) {a : α} (mem : a ∈ items) :
    named? (className a) items = some a := by
  cases found : named? (className a) items with
  | none => exact absurd rfl (named?_eq_none_iff.mp found a mem)
  | some b =>
    obtain ⟨mem', same⟩ := named?_eq_some found
    rw [increasing.eq_of_className mem' mem same]

/-- Dropping what has other names loses no item of a name. -/
theorem named?_filter {name : ClassName} {items : List α} {keep : α → Bool}
    (kept : ∀ a ∈ items, className a = name → keep a = true) :
    named? name (items.filter keep) = named? name items := by
  induction items with
  | nil => rfl
  | cons a items ih =>
    have ih := ih fun b mem => kept b (List.mem_cons_of_mem a mem)
    by_cases same : className a = name
    · rw [List.filter_cons_of_pos (kept a List.mem_cons_self same), named?_cons, named?_cons, if_pos same,
        if_pos same]
    · rw [named?_cons, if_neg same, ← ih]
      by_cases keeps : keep a = true
      · rw [List.filter_cons_of_pos keeps, named?_cons, if_neg same]
      · rw [List.filter_cons_of_neg keeps]

end

end SignatureLint
