import SignatureLint.Proofs.Pairing.Walk

/-!
# A walk repeated with its paired names

The names that found a counterpart in a walk are known to be in the baseline. Walking again over the
same lists with them as known names changes nothing (`listWalk_pairedNames`), whatever the order of the
lists: no known name is ever looked up by itself, each is met by its own class and passed over there.

The reason is that an unpaired class leaves the baseline at a class that comes after it
(`startsAfter_of_lookUp`), and the baseline only moves on from there. So the next name that is paired
comes after the unpaired class as well (`StartsAfter.pairedNames`), and a sweep to that class stops
before it.
-/

namespace SignatureLint

/-- The names of the current classes that have a counterpart. -/
def pairedNames (visits : List Visit) : List ClassName := visits.filterMap Visit.pairedName?

/-- The next item, if there is one, comes after the target. -/
def StartsAfter {α : Type} [Named α] (target : ClassName) (items : List α) : Prop :=
  ∀ a ∈ items.head?, target.Before (className a)

section

variable {α : Type} [Named α] {target next : ClassName} {items : List α}

theorem startsAfter_nil : StartsAfter target ([] : List α) := by
  intro a mem
  cases mem

theorem startsAfter_cons {a : α} : StartsAfter target (a :: items) ↔ target.Before (className a) := by
  simp [StartsAfter]

/-- A look-up that finds nothing stops at what comes after its target. -/
theorem startsAfter_of_lookUp (missed : (lookUp target items).1 = none) :
    StartsAfter target (lookUp target items).2 := by
  induction items with
  | nil => exact startsAfter_nil
  | cons a items ih =>
    rcases before_or_eq_or_after a target with before | same | after
    · rw [lookUp_cons_of_before before] at missed ⊢
      exact ih missed
    · rw [lookUp_cons_of_eq same] at missed
      cases missed
    · rw [lookUp_cons_of_after after]
      exact startsAfter_cons.mpr after

/-- What comes after the target still does past a look-up that finds nothing. -/
theorem StartsAfter.lookUp_none (starts : StartsAfter target items) (missed : (lookUp next items).1 = none) :
    StartsAfter target (lookUp next items).2 := by
  cases items with
  | nil => exact startsAfter_nil
  | cons a items =>
    have after := startsAfter_cons.mp starts
    rcases before_or_eq_or_after a next with before | same | later
    · intro b mem
      exact (after.trans before).trans (startsAfter_of_lookUp missed b mem)
    · rw [lookUp_cons_of_eq same] at missed
      cases missed
    · rw [lookUp_cons_of_after later]
      exact starts

/-- From what comes after the target on, only names after the target are found. -/
theorem StartsAfter.before_of_lookUp {a : α} (starts : StartsAfter target items)
    (found : (lookUp next items).1 = some a) : target.Before next := by
  cases items with
  | nil => cases found
  | cons b items =>
    have after := startsAfter_cons.mp starts
    rcases before_or_eq_or_after b next with before | same | later
    · exact after.trans before
    · exact same ▸ after
    · rw [lookUp_cons_of_after later] at found
      cases found

theorem StartsAfter.sweepTo (starts : StartsAfter target items) : sweepTo target items = ([], items) := by
  cases items with
  | nil => rfl
  | cons a items => exact sweepTo_cons_of_after (startsAfter_cons.mp starts)

end

/-- Without known names, a class is only paired. -/
theorem listWalk_nil_cons (base : List Class) (c : Class) (classes : List Class) :
    listWalk [] base (c :: classes) =
      .current c (lookUp c.className base).1 :: listWalk [] (lookUp c.className base).2 classes := rfl

theorem pairedNames_current_none (c : Class) (visits : List Visit) :
    pairedNames (.current c none :: visits) = pairedNames visits := rfl

theorem pairedNames_current_some (c b : Class) (visits : List Visit) :
    pairedNames (.current c (some b) :: visits) = c.className :: pairedNames visits := rfl

/-- The first name that is paired comes after the target if the baseline starts there. -/
theorem StartsAfter.pairedNames {target : ClassName} {base : List Class} (starts : StartsAfter target base)
    (current : List Class) : StartsAfter target (pairedNames (listWalk [] base current)) := by
  induction current generalizing base with
  | nil => exact startsAfter_nil
  | cons c current ih =>
    rw [listWalk_nil_cons]
    cases found : (lookUp c.className base).1 with
    | none =>
      rw [pairedNames_current_none]
      exact ih (starts.lookUp_none found)
    | some b =>
      rw [pairedNames_current_some]
      exact startsAfter_cons.mpr (starts.before_of_lookUp found)

/-- Known names that a class stands before are left where they are. -/
theorem listWalk_cons_of_startsAfter {known : List ClassName} {c : Class} (starts : StartsAfter c.className known)
    (base classes : List Class) :
    listWalk known base (c :: classes) =
      .current c (lookUp c.className base).1 :: listWalk known (lookUp c.className base).2 classes := by
  rw [listWalk, starts.sweepTo]
  rfl

/-- A known name is passed over with its own class. -/
theorem listWalk_cons_of_known (c : Class) (known : List ClassName) (base classes : List Class) :
    listWalk (c.className :: known) base (c :: classes) =
      .current c (lookUp c.className base).1 :: listWalk known (lookUp c.className base).2 classes := by
  have swept : sweepTo c.className (c.className :: known) = ([], known) := sweepTo_cons_of_eq rfl
  rw [listWalk, swept]
  rfl

/-- **The paired names of a walk change nothing as known names.** -/
theorem listWalk_pairedNames (base current : List Class) :
    listWalk (pairedNames (listWalk [] base current)) base current = listWalk [] base current := by
  induction current generalizing base with
  | nil => rfl
  | cons c current ih =>
    rw [listWalk_nil_cons]
    cases found : (lookUp c.className base).1 with
    | none =>
      have starts := (startsAfter_of_lookUp found).pairedNames current
      rw [pairedNames_current_none, listWalk_cons_of_startsAfter starts, found, ih]
    | some b =>
      rw [pairedNames_current_some, listWalk_cons_of_known, found, ih]

end SignatureLint
