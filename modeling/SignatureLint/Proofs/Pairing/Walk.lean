import SignatureLint.Pairing.Visit
import SignatureLint.Proofs.Pairing.Seek

/-!
# The walk on lists

`listWalk` visits the classes as `walk` does, with the lists of what is still to come in place of the
cursors; `visits_eq` says that the two agree on all lists, in order or not. Each look-up is told by the
lists alone, so the walk is a recursion over the current classes that carries two lists.

A walk visits each current class once, and uses classes of the baseline in the order in which they stand
there (`current_listWalk`, `bases_listWalk_sublist`).

A walk meets classes by their names only: a change to the classes that keeps their names changes the
classes of the visits alike and nothing else (`listWalk_map`).
-/

namespace SignatureLint

open scoped List

/-- The baseline classes of the names, and the baseline that is left. -/
def listKnown : List ClassName → List Class → List Visit × List Class
  | [], base => ([], base)
  | name :: names, base =>
    let found := lookUp name base
    let more := listKnown names found.2
    (found.1.toList.map .known ++ more.1, more.2)

/-- The visits to the current classes, and to the known classes between and after them. -/
def listWalk (known : List ClassName) (base : List Class) : List Class → List Visit
  | [] => (listKnown known base).1
  | c :: classes =>
    let swept := sweepTo c.className known
    let before := listKnown swept.1 base
    let found := lookUp c.className before.2
    before.1 ++ .current c found.1 :: listWalk swept.2 found.2 classes

/-! ## Cursors and lists -/

theorem visitKnown_toList (names : List ClassName) (base : Cursor Class) :
    ∃ d, visitKnown names base = .ok ((listKnown names base.toList).1, d) ∧
      d.toList = (listKnown names base.toList).2 := by
  induction names generalizing base with
  | nil => exact ⟨base, rfl, rfl⟩
  | cons name names ih =>
    obtain ⟨d, found, left⟩ := base.find_toList name
    obtain ⟨e, visited, left'⟩ := ih d
    rw [left] at visited left'
    refine ⟨e, ?_, left'⟩
    simp only [visitKnown, found, visited, bind, Except.bind, pure, Except.pure, listKnown]

theorem walk_toList (known : Cursor ClassName) (base : Cursor Class) (classes : List Class) :
    walk known base classes = .ok (listWalk known.toList base.toList classes) := by
  induction classes generalizing known base with
  | nil =>
    obtain ⟨d, swept⟩ := known.sweep_none_toList
    obtain ⟨e, visited, -⟩ := visitKnown_toList known.toList base
    simp only [walk, visitKnownBefore, swept, visited, bind, Except.bind, pure, Except.pure, Except.map, listWalk]
  | cons c classes ih =>
    obtain ⟨known', swept, knownLeft⟩ := known.sweep_toList c.className
    obtain ⟨base', visited, baseLeft⟩ := visitKnown_toList (sweepTo c.className known.toList).1 base
    obtain ⟨base'', found, baseLeft'⟩ := base'.find_toList c.className
    rw [baseLeft] at found baseLeft'
    simp only [walk, visitKnownBefore, swept, visited, found, ih, knownLeft, baseLeft', bind, Except.bind, pure,
      Except.pure, listWalk]

theorem visits_eq (current base : List Class) (known : List ClassName) :
    visits current base known = .ok (listWalk known base current) := walk_toList _ _ _

namespace Walk

theorem visits_eq_listWalk (current : List Class) (base : Option (List Class)) (known : List ClassName) :
    (of current base known).visits = listWalk known (base.getD []) current := by
  have made := visits_of current base known
  rw [visits_eq] at made
  exact (Except.ok.inj made).symm

end Walk

/-! ## Where the visited classes stand -/

namespace Visit

/-- The baseline class that is used: the counterpart of a current class, or the class visited alone. -/
def base? : Visit → Option Class
  | .current _ counterpart => counterpart
  | .known base => some base

end Visit

theorem filter_isCurrent_listKnown {names : List ClassName} {base : List Class} :
    (listKnown names base).1.filter Visit.isCurrent = [] := by
  induction names generalizing base with
  | nil => rfl
  | cons name names ih =>
    rw [listKnown, List.filter_append, ih, List.append_nil]
    cases (lookUp name base).1 <;> rfl

/-- Each current class is visited once, in order. -/
theorem current_listWalk (known : List ClassName) (base current : List Class) :
    ((listWalk known base current).filter Visit.isCurrent).map (·.view.own) = current := by
  induction current generalizing known base with
  | nil => rw [listWalk, filter_isCurrent_listKnown, List.map_nil]
  | cons c current ih =>
    rw [listWalk, List.filter_append, filter_isCurrent_listKnown, List.nil_append, List.filter_cons_of_pos (by rfl),
      List.map_cons, ih]
    rfl

/-- The baseline classes visited, then those left, stand in this order in the baseline. -/
theorem bases_listKnown_sublist (names : List ClassName) (base : List Class) :
    (listKnown names base).1.filterMap Visit.base? ++ (listKnown names base).2 <+ base := by
  induction names generalizing base with
  | nil => exact List.Sublist.refl _
  | cons name names ih =>
    have here : ((lookUp name base).1.toList.map Visit.known).filterMap Visit.base? = (lookUp name base).1.toList := by
      cases (lookUp name base).1 <;> rfl
    rw [listKnown, List.filterMap_append, here, List.append_assoc]
    exact ((ih _).append_left _).trans (lookUp_sublist name base)

theorem filterMap_base?_cons (v : Visit) (visits : List Visit) :
    (v :: visits).filterMap Visit.base? = v.base?.toList ++ visits.filterMap Visit.base? := by
  rw [List.filterMap_cons]
  cases v.base? <;> rfl

/-- The baseline classes that a walk uses stand in this order in the baseline. -/
theorem bases_listWalk_sublist (known : List ClassName) (base current : List Class) :
    (listWalk known base current).filterMap Visit.base? <+ base := by
  induction current generalizing known base with
  | nil => exact (List.sublist_append_left _ _).trans (bases_listKnown_sublist known base)
  | cons c current ih =>
    let before := listKnown (sweepTo c.className known).1 base
    let found := lookUp c.className before.2
    calc (listWalk known base (c :: current)).filterMap Visit.base?
        = before.1.filterMap Visit.base? ++
            (found.1.toList ++ (listWalk (sweepTo c.className known).2 found.2 current).filterMap Visit.base?) := by
          rw [listWalk, List.filterMap_append, filterMap_base?_cons]
          rfl
      _ <+ before.1.filterMap Visit.base? ++ (found.1.toList ++ found.2) := ((ih _ _).append_left _).append_left _
      _ <+ before.1.filterMap Visit.base? ++ before.2 := (lookUp_sublist c.className before.2).append_left _
      _ <+ base := bases_listKnown_sublist _ base

/-- Every visit is to a current class or to one of the baseline. -/
theorem own_mem_of_mem_listWalk {known : List ClassName} {base current : List Class} {v : Visit}
    (mem : v ∈ listWalk known base current) : v.view.own ∈ current ∨ v.view.own ∈ base := by
  cases v with
  | current own counterpart =>
    have listed : own ∈ ((listWalk known base current).filter Visit.isCurrent).map (·.view.own) :=
      List.mem_map.mpr ⟨_, List.mem_filter.mpr ⟨mem, rfl⟩, rfl⟩
    rw [current_listWalk] at listed
    exact .inl listed
  | known b =>
    have used : b ∈ (listWalk known base current).filterMap Visit.base? := List.mem_filterMap.mpr ⟨_, mem, rfl⟩
    exact .inr ((bases_listWalk_sublist known base current).subset used)

/-! ## Classes under a change that keeps their names -/

namespace Visit

/-- The visit with its classes changed. -/
def map (f : Class → Class) : Visit → Visit
  | .current own counterpart => .current (f own) (counterpart.map f)
  | .known base => .known (f base)

end Visit

section

variable {f : Class → Class} (keeps : ∀ c, (f c).className = c.className)

include keeps

theorem lookUp_map (target : ClassName) (base : List Class) :
    lookUp target (base.map f) = ((lookUp target base).1.map f, (lookUp target base).2.map f) := by
  induction base with
  | nil => rfl
  | cons b base ih =>
    have same : className (f b) = className b := keeps b
    rw [List.map_cons]
    rcases before_or_eq_or_after b target with before | equal | after
    · rw [lookUp_cons_of_before before, lookUp_cons_of_before (same ▸ before), ih]
    · rw [lookUp_cons_of_eq equal, lookUp_cons_of_eq (same.trans equal)]
      rfl
    · rw [lookUp_cons_of_after after, lookUp_cons_of_after (same ▸ after)]
      rfl

theorem listKnown_map (names : List ClassName) (base : List Class) :
    listKnown names (base.map f) =
      ((listKnown names base).1.map (Visit.map f), (listKnown names base).2.map f) := by
  induction names generalizing base with
  | nil => rfl
  | cons name names ih =>
    simp only [listKnown, lookUp_map keeps, ih, List.map_append]
    cases (lookUp name base).1 <;> rfl

theorem listWalk_map (known : List ClassName) (base current : List Class) :
    listWalk known (base.map f) (current.map f) = (listWalk known base current).map (Visit.map f) := by
  induction current generalizing known base with
  | nil => simp only [List.map_nil, listWalk, listKnown_map keeps]
  | cons c current ih =>
    simp only [List.map_cons, listWalk, keeps, listKnown_map keeps, lookUp_map keeps, ih, List.map_append]
    rfl

theorem pairedName?_map (v : Visit) : (v.map f).pairedName? = v.pairedName? := by
  cases v with
  | current own counterpart =>
    cases counterpart with
    | none => rfl
    | some b => exact congrArg some (keeps own)
  | known b => rfl

end

end SignatureLint
