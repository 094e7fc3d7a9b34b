import SignatureLint.Pairing.Seek
import SignatureLint.Proofs.Pairing.Order

/-!
# Look-ups on lists

What a cursor does is a matter of the items still to come: `lookUp` is `Cursor.findTarget` on them and
`sweepTo` is `Cursor.sweep` (`Cursor.findTarget_toList`, `Cursor.sweep_toList`). The slot of a cursor
decides nothing but whether an item can be given back, and a look-up gives back only what it was just
handed.

What a look-up finds, and then what it leaves, is a sublist of what it was given (`lookUp_sublist`). On an
increasing list it answers the item of its name, and leaves what comes after it (`Increasing.lookUp_eq`).
-/

namespace SignatureLint

open scoped List

variable {α : Type} [Named α]

/-- The item with the name of the target, past all that comes before it, and the items that are left. -/
def lookUp (target : ClassName) : List α → Option α × List α
  | [] => (none, [])
  | item :: items =>
    match (className item).compare target with
    | .lt => lookUp target items
    | .eq => (some item, items)
    | .gt => (none, item :: items)

/-- The items before the target, and those that are left past the item of its name. -/
def sweepTo (target : ClassName) : List α → List α × List α
  | [] => ([], [])
  | item :: items =>
    match (className item).compare target with
    | .lt => (item :: (sweepTo target items).1, (sweepTo target items).2)
    | .eq => ([], items)
    | .gt => ([], item :: items)

section

variable {item : α} {items : List α} {target : ClassName}

theorem lookUp_cons_of_before (before : (className item).Before target) :
    lookUp target (item :: items) = lookUp target items := by
  rw [lookUp, ClassName.compare_eq_lt_iff.mpr before]

theorem lookUp_cons_of_eq (same : className item = target) : lookUp target (item :: items) = (some item, items) := by
  rw [lookUp, ClassName.compare_eq_eq_iff.mpr same]

theorem lookUp_cons_of_after (after : target.Before (className item)) :
    lookUp target (item :: items) = (none, item :: items) := by
  rw [lookUp, ClassName.compare_eq_gt_iff.mpr after]

theorem sweepTo_cons_of_before (before : (className item).Before target) :
    sweepTo target (item :: items) = (item :: (sweepTo target items).1, (sweepTo target items).2) := by
  rw [sweepTo, ClassName.compare_eq_lt_iff.mpr before]

theorem sweepTo_cons_of_eq (same : className item = target) : sweepTo target (item :: items) = ([], items) := by
  rw [sweepTo, ClassName.compare_eq_eq_iff.mpr same]

theorem sweepTo_cons_of_after (after : target.Before (className item)) :
    sweepTo target (item :: items) = ([], item :: items) := by
  rw [sweepTo, ClassName.compare_eq_gt_iff.mpr after]

/-- An item comes before the target, has its name, or comes after it. -/
theorem before_or_eq_or_after (item : α) (target : ClassName) :
    (className item).Before target ∨ className item = target ∨ target.Before (className item) := by
  cases compared : (className item).compare target with
  | lt => exact .inl compared
  | eq => exact .inr (.inl (ClassName.compare_eq_eq_iff.mp compared))
  | gt => exact .inr (.inr (ClassName.compare_eq_gt_iff.mp compared))

end

/-! ## What a look-up finds and leaves -/

section

variable {target : ClassName}

/-- What is found, then what is left, stands in this order in what was given. -/
theorem lookUp_sublist (target : ClassName) (items : List α) :
    (lookUp target items).1.toList ++ (lookUp target items).2 <+ items := by
  induction items with
  | nil => exact List.Sublist.refl _
  | cons item items ih =>
    rcases before_or_eq_or_after item target with before | same | after
    · rw [lookUp_cons_of_before before]
      exact ih.cons item
    · rw [lookUp_cons_of_eq same]
      exact List.Sublist.refl _
    · rw [lookUp_cons_of_after after]
      exact List.Sublist.refl _

theorem className_of_lookUp {items : List α} {item : α} (found : (lookUp target items).1 = some item) :
    className item = target := by
  induction items with
  | nil => cases found
  | cons other items ih =>
    rcases before_or_eq_or_after other target with before | same | after
    · rw [lookUp_cons_of_before before] at found
      exact ih found
    · rw [lookUp_cons_of_eq same] at found
      cases found
      exact same
    · rw [lookUp_cons_of_after after] at found
      cases found

/-- What is swept, then what is left, stands in this order in what was given. -/
theorem sweepTo_sublist (target : ClassName) (items : List α) :
    (sweepTo target items).1 ++ (sweepTo target items).2 <+ items := by
  induction items with
  | nil => exact List.Sublist.refl _
  | cons item items ih =>
    rcases before_or_eq_or_after item target with before | same | after
    · rw [sweepTo_cons_of_before before]
      exact ih.cons_cons item
    · rw [sweepTo_cons_of_eq same]
      exact List.sublist_cons_self item items
    · rw [sweepTo_cons_of_after after]
      exact List.Sublist.refl _

end

/-! ## Cursors -/

namespace Cursor

theorem findTarget_toList (c : Cursor α) (target : ClassName) :
    ∃ d, c.findTarget target = .ok ((lookUp target c.toList).1, d) ∧ d.toList = (lookUp target c.toList).2 := by
  fun_induction findTarget c target with
  | case1 c d handed =>
    obtain ⟨nothing, nothing', -, -⟩ := next_eq_none handed
    refine ⟨d, ?_, ?_⟩
    · rw [nothing, lookUp]
    · rw [nothing, nothing', lookUp]
  | case2 c item d handed before ih =>
    rw [(next_eq_some handed).1, lookUp_cons_of_before before]
    exact ih
  | case3 c item d handed same =>
    rw [(next_eq_some handed).1, lookUp_cons_of_eq (ClassName.compare_eq_eq_iff.mp same)]
    exact ⟨d, rfl, rfl⟩
  | case4 c item d handed after =>
    obtain ⟨items, yielded, -⟩ := next_eq_some handed
    rw [items, lookUp_cons_of_after (ClassName.compare_eq_gt_iff.mp after), giveBack_of_yielded item yielded]
    exact ⟨_, rfl, toList_park_of_yielded item yielded⟩

theorem find_toList (c : Cursor α) (target : ClassName) :
    ∃ d, c.find (some target) = .ok ((lookUp target c.toList).1, d) ∧ d.toList = (lookUp target c.toList).2 :=
  findTarget_toList c target

theorem sweep_toList (c : Cursor α) (target : ClassName) :
    ∃ d, c.sweep (some target) = .ok ((sweepTo target c.toList).1, d) ∧ d.toList = (sweepTo target c.toList).2 := by
  fun_induction sweep c (some target) with
  | case1 c e failed => exact absurd failed (c.pull_ne_error _ e)
  | case2 c d answered =>
    have pulled := c.pulled (some target)
    rw [answered] at pulled
    cases pulled with
    | nothing handed =>
      obtain ⟨nothing, nothing', -, -⟩ := next_eq_none handed
      rw [nothing, sweepTo]
      exact ⟨d, rfl, nothing'⟩
    | named handed same =>
      rw [(next_eq_some handed).1, sweepTo_cons_of_eq (ClassName.compare_eq_eq_iff.mp same)]
      exact ⟨d, rfl, rfl⟩
    | after handed after =>
      obtain ⟨items, yielded, -⟩ := next_eq_some handed
      rw [items, sweepTo_cons_of_after (ClassName.compare_eq_gt_iff.mp after)]
      exact ⟨_, rfl, toList_park_of_yielded _ yielded⟩
  | case3 c item d answered ih =>
    have pulled := c.pulled (some target)
    rw [answered] at pulled
    cases pulled with
    | before handed before =>
      obtain ⟨e, swept, left⟩ := ih
      rw [(next_eq_some handed).1, sweepTo_cons_of_before before, swept]
      exact ⟨e, rfl, left⟩

/-- Without a target, all items are swept. -/
theorem sweep_none_toList (c : Cursor α) : ∃ d, c.sweep none = .ok (c.toList, d) := by
  fun_induction sweep c none with
  | case1 c e failed => exact absurd failed (c.pull_ne_error _ e)
  | case2 c d answered =>
    have pulled := c.pulled none
    rw [answered] at pulled
    cases pulled with
    | nothing handed =>
      rw [(next_eq_none handed).1]
      exact ⟨d, rfl⟩
  | case3 c item d answered ih =>
    have pulled := c.pulled none
    rw [answered] at pulled
    cases pulled with
    | any handed =>
      obtain ⟨e, swept⟩ := ih
      rw [swept, (next_eq_some handed).1]
      exact ⟨e, rfl⟩

end Cursor

/-! ## Increasing lists -/

namespace Increasing

variable {items : List α}

theorem lookUp_eq (increasing : Increasing items) (target : ClassName) :
    lookUp target items = (named? target items, items.filter fun a => target.Before (className a)) := by
  induction items with
  | nil => rfl
  | cons item items ih =>
    obtain ⟨above, rest⟩ := increasing_cons.mp increasing
    rcases before_or_eq_or_after item target with before | same | after
    · rw [lookUp_cons_of_before before, ih rest, named?_cons, if_neg before.ne, List.filter_cons_of_neg]
      simpa using before.asymm
    · subst same
      have allAfter : items.filter (fun a => (className item).Before (className a)) = items :=
        List.filter_eq_self.mpr fun a mem => decide_eq_true (above a mem)
      rw [lookUp_cons_of_eq rfl, named?_cons, if_pos rfl, List.filter_cons_of_neg, allAfter]
      simpa using ClassName.not_before_self (className item)
    · have allAfter : ∀ a ∈ item :: items, target.Before (className a) := by
        intro a mem
        rcases List.mem_cons.mp mem with rfl | mem
        · exact after
        · exact after.trans (above a mem)
      have lacking : named? target (item :: items) = none :=
        named?_eq_none_iff.mpr fun a mem => (allAfter a mem).ne.symm
      rw [lookUp_cons_of_after after, lacking, List.filter_eq_self.mpr fun a mem => decide_eq_true (allAfter a mem)]

theorem sweepTo_eq (increasing : Increasing items) (target : ClassName) :
    sweepTo target items =
      (items.filter fun a => (className a).Before target, items.filter fun a => target.Before (className a)) := by
  induction items with
  | nil => rfl
  | cons item items ih =>
    obtain ⟨above, rest⟩ := increasing_cons.mp increasing
    rcases before_or_eq_or_after item target with before | same | after
    · rw [sweepTo_cons_of_before before, ih rest, List.filter_cons_of_pos (by simpa using before),
        List.filter_cons_of_neg (by simpa using before.asymm)]
    · subst same
      have noneBefore : (item :: items).filter (fun a => (className a).Before (className item)) = [] := by
        apply List.filter_eq_nil_iff.mpr
        intro a mem
        rcases List.mem_cons.mp mem with rfl | mem
        · simpa using ClassName.not_before_self (className a)
        · simpa using (above a mem).asymm
      have allAfter : items.filter (fun a => (className item).Before (className a)) = items :=
        List.filter_eq_self.mpr fun a mem => decide_eq_true (above a mem)
      rw [sweepTo_cons_of_eq rfl, noneBefore, List.filter_cons_of_neg, allAfter]
      simpa using ClassName.not_before_self (className item)
    · have allAfter : ∀ a ∈ item :: items, target.Before (className a) := by
        intro a mem
        rcases List.mem_cons.mp mem with rfl | mem
        · exact after
        · exact after.trans (above a mem)
      have noneBefore : (item :: items).filter (fun a => (className a).Before target) = [] :=
        List.filter_eq_nil_iff.mpr fun a mem => by simpa using (allAfter a mem).asymm
      rw [sweepTo_cons_of_after after, noneBefore,
        List.filter_eq_self.mpr fun a mem => decide_eq_true (allAfter a mem)]

end Increasing

end SignatureLint
