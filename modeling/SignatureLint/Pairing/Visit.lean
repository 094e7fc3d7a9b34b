import SignatureLint.Pairing.Seek

/-!
# A dump beside its baseline

The classes of a current dump are visited in order, each together with the class of the same name in
a baseline, if there is one. Classes that are known to be in the baseline are visited as well where the
current dump lacks them: each that comes between two current classes is looked up in the baseline and
visited alone. A visit shows the rules a `ClassView`, whose members are the class's own and then those
of its counterpart.

All three lists are taken to be in the order of classes. Out of order, a look-up passes over what it
meets too early, so some classes go without their counterparts; nothing else goes wrong
(`visits_isOk`).
-/

namespace SignatureLint

/-- A class as rules see it: its own declaration, and the members of a counterpart beside its own. -/
structure ClassView where
  own : Class
  base : Option Class
deriving DecidableEq

namespace ClassView

/-- Its own methods, then those of the counterpart. -/
def methods (v : ClassView) : List Method := v.own.methods ++ (v.base.map Class.methods).getD []

/-- Its own fields, then those of the counterpart. -/
def fields (v : ClassView) : List Field := v.own.fields ++ (v.base.map Class.fields).getD []

def constructors (v : ClassView) : List Method := v.methods.filter (·.kind = .constructor)

/-- The methods that are no constructors. -/
def plainMethods (v : ClassView) : List Method := v.methods.filter (·.kind = .method)

end ClassView

/-- One step of the walk. -/
inductive Visit where
  /-- A class of the current dump, with its counterpart in the baseline. -/
  | current (own : Class) (counterpart : Option Class)
  /-- A class of the baseline that the current dump lacks. -/
  | known (base : Class)
deriving DecidableEq

namespace Visit

def view : Visit → ClassView
  | .current own counterpart => ⟨own, counterpart⟩
  | .known base => ⟨base, none⟩

/-- The name of a current class that has a counterpart. -/
def pairedName? : Visit → Option ClassName
  | .current own (some _) => some own.className
  | _ => none

def isCurrent : Visit → Bool
  | .current _ _ => true
  | .known _ => false

end Visit

open Cursor (Misuse)

/-- Looks each name up in the baseline, and visits what is found. -/
def visitKnown (names : List ClassName) (base : Cursor Class) : Except Misuse (List Visit × Cursor Class) :=
  match names with
  | [] => .ok ([], base)
  | name :: names => do
    let (found, base) ← base.find (some name)
    let (visits, base) ← visitKnown names base
    return (found.toList.map .known ++ visits, base)

/-- Visits the known classes before the target. -/
def visitKnownBefore (known : Cursor ClassName) (base : Cursor Class) (target : Option ClassName) :
    Except Misuse (List Visit × Cursor ClassName × Cursor Class) := do
  let (names, known) ← known.sweep target
  let (visits, base) ← visitKnown names base
  return (visits, known, base)

/-- Visits the current classes and the known classes between and after them. -/
def walk (known : Cursor ClassName) (base : Cursor Class) : List Class → Except Misuse (List Visit)
  | [] => (visitKnownBefore known base none).map (·.1)
  | c :: classes => do
    let (before, known, base) ← visitKnownBefore known base (some c.className)
    let (counterpart, base) ← base.find (some c.className)
    let after ← walk known base classes
    return before ++ .current c counterpart :: after

/-- The visits to a current dump beside a baseline, with the classes known to be in the baseline. -/
def visits (current base : List Class) (known : List ClassName) : Except Misuse (List Visit) :=
  walk (.ofList known) (.ofList base) current

/-! ## No misuse -/

theorem visitKnown_isOk (names : List ClassName) (base : Cursor Class) :
    ∃ answer, visitKnown names base = .ok answer := by
  induction names generalizing base with
  | nil => exact ⟨_, rfl⟩
  | cons name names ih =>
    obtain ⟨⟨found, base'⟩, ok⟩ := base.find_isOk (some name)
    obtain ⟨answer, ok'⟩ := ih base'
    simp only [visitKnown, ok, ok', bind, Except.bind]
    exact ⟨_, rfl⟩

theorem visitKnownBefore_isOk (known : Cursor ClassName) (base : Cursor Class) (target : Option ClassName) :
    ∃ answer, visitKnownBefore known base target = .ok answer := by
  obtain ⟨⟨names, known'⟩, ok⟩ := known.sweep_isOk target
  obtain ⟨answer, ok'⟩ := visitKnown_isOk names base
  simp only [visitKnownBefore, ok, ok', bind, Except.bind]
  exact ⟨_, rfl⟩

theorem walk_isOk (known : Cursor ClassName) (base : Cursor Class) (classes : List Class) :
    ∃ answer, walk known base classes = .ok answer := by
  induction classes generalizing known base with
  | nil =>
    obtain ⟨answer, ok⟩ := visitKnownBefore_isOk known base none
    simp only [walk, ok]
    exact ⟨_, rfl⟩
  | cons c classes ih =>
    obtain ⟨⟨before, known', base'⟩, ok⟩ := visitKnownBefore_isOk known base (some c.className)
    obtain ⟨⟨counterpart, base''⟩, ok'⟩ := base'.find_isOk (some c.className)
    obtain ⟨answer, ok''⟩ := ih known' base''
    simp only [walk, ok, ok', ok'', bind, Except.bind]
    exact ⟨_, rfl⟩

theorem visits_isOk (current base : List Class) (known : List ClassName) :
    ∃ answer, visits current base known = .ok answer := walk_isOk _ _ _

/-! ## What a walk answers -/

/-- Counts of a walk. -/
structure WalkStats where
  /-- The classes of the current dump. -/
  current : Nat
  /-- Those of them that have a counterpart. -/
  withBase : Nat
  /-- The known classes that were visited alone. -/
  knownOnly : Nat
deriving DecidableEq, Repr

/-- What a walk visited. -/
structure Walk where
  visits : List Visit
deriving DecidableEq

namespace Walk

/-- The walk over a current dump beside a baseline. An absent baseline is an empty one. -/
def of (current : List Class) (base : Option (List Class)) (known : List ClassName) : Walk :=
  match SignatureLint.visits current (base.getD []) known with
  | .ok visits => { visits }
  | .error _ => { visits := [] }

/-- The names of the current classes that have a counterpart, in order. -/
def classesWithBase (w : Walk) : List ClassName := w.visits.filterMap Visit.pairedName?

def views (w : Walk) : List ClassView := w.visits.map Visit.view

def stats (w : Walk) : WalkStats :=
  { current := w.visits.countP Visit.isCurrent
    withBase := w.classesWithBase.length
    knownOnly := w.visits.countP (! Visit.isCurrent ·) }

/-- The walk is always made: no look-up is refused. -/
theorem visits_of (current : List Class) (base : Option (List Class)) (known : List ClassName) :
    SignatureLint.visits current (base.getD []) known = .ok (of current base known).visits := by
  obtain ⟨answer, ok⟩ := visits_isOk current (base.getD []) known
  simp only [of, ok]

end Walk

end SignatureLint
