import SignatureLint.Pairing.Cursor
import SignatureLint.Pairing.Order

/-!
# Looking up a class in a stream

Two ways to move a cursor over classes, in order, towards a target. `find` passes over what comes
before the target and answers the class of that name; `sweep` hands out what comes before the target
and takes the class of that name out. Both give back the first class that comes after the target, so
that the next look-up meets it. Without a target `find` takes nothing and `sweep` takes all.

**No misuse.** A class is given back only where it was just handed out, so neither is ever refused
(`find_isOk`, `sweep_isOk`).
-/

namespace SignatureLint.Cursor

variable {α : Type} [Named α]

/-- The class with the name of the target, past everything that comes before it. -/
def findTarget (c : Cursor α) (target : ClassName) : Except Misuse (Option α × Cursor α) :=
  match _handed : c.next with
  | (none, c) => .ok (none, c)
  | (some item, c) =>
    match (className item).compare target with
    | .lt => c.findTarget target
    | .eq => .ok (some item, c)
    | .gt => (c.giveBack item).map fun c => (none, c)
termination_by c.size
decreasing_by exact size_next _handed

/-- The class with the name of the target; none, and nothing taken, without a target. -/
def find (c : Cursor α) (target : Option ClassName) : Except Misuse (Option α × Cursor α) :=
  match target with
  | none => .ok (none, c)
  | some target => c.findTarget target

/-- The next class before the target; none where there is no further one. -/
def pull (c : Cursor α) (target : Option ClassName) : Except Misuse (Option α × Cursor α) :=
  match c.next with
  | (none, c) => .ok (none, c)
  | (some item, c) =>
    match target with
    | none => .ok (some item, c)
    | some target =>
      match (className item).compare target with
      | .lt => .ok (some item, c)
      | .eq => .ok (none, c)
      | .gt => (c.giveBack item).map fun c => (none, c)

/-- The classes before a target, one at a time. -/
structure Sweep (α : Type) where
  cursor : Cursor α
  target : Option ClassName
  /-- Whether a pull has answered none; from then on all do, and the cursor stands still. -/
  done : Bool

namespace Sweep

/-- The classes before the target, from the cursor on. -/
def start (cursor : Cursor α) (target : Option ClassName) : Sweep α := { cursor, target, done := false }

/-- The next class before the target. -/
def next (s : Sweep α) : Except Misuse (Option α × Sweep α) :=
  if s.done then .ok (none, s)
  else (s.cursor.pull s.target).map fun (item, cursor) => (item, { s with cursor, done := item.isNone })

/-- The answers to `n` pulls. -/
def pulls : Nat → Sweep α → Except Misuse (List (Option α) × Sweep α)
  | 0, s => .ok ([], s)
  | n + 1, s => do
    let (item, s) ← s.next
    let (items, s) ← pulls n s
    return (item :: items, s)

/-- The classes that at most `n` pulls hand out. -/
def take : Nat → Sweep α → Except Misuse (List α × Sweep α)
  | 0, s => .ok ([], s)
  | n + 1, s => do
    match ← s.next with
    | (none, s) => return ([], s)
    | (some item, s) =>
      let (items, s) ← take n s
      return (item :: items, s)

end Sweep

/-- What a pull comes to, by the item that is next. -/
inductive Pulled (c : Cursor α) : Option ClassName → Except Misuse (Option α × Cursor α) → Prop where
  | nothing {target : Option ClassName} {d : Cursor α} (handed : c.next = (none, d)) :
      Pulled c target (.ok (none, d))
  | any {item : α} {d : Cursor α} (handed : c.next = (some item, d)) : Pulled c none (.ok (some item, d))
  | before {item : α} {d : Cursor α} {target : ClassName} (handed : c.next = (some item, d))
      (compared : (className item).compare target = .lt) : Pulled c (some target) (.ok (some item, d))
  | named {item : α} {d : Cursor α} {target : ClassName} (handed : c.next = (some item, d))
      (compared : (className item).compare target = .eq) : Pulled c (some target) (.ok (none, d))
  | after {item : α} {d : Cursor α} {target : ClassName} (handed : c.next = (some item, d))
      (compared : (className item).compare target = .gt) : Pulled c (some target) (.ok (none, d.park item))

theorem pulled (c : Cursor α) (target : Option ClassName) : Pulled c target (c.pull target) := by
  unfold pull
  split
  next d handed => exact .nothing handed
  next item d handed =>
    split
    · exact .any handed
    next target =>
      split
      next compared => exact .before handed compared
      next compared => exact .named handed compared
      next compared =>
        rw [giveBack_of_yielded item (next_eq_some handed).2.1]
        exact .after handed compared

theorem size_pull {c d : Cursor α} {target : Option ClassName} {item : α}
    (answered : c.pull target = .ok (some item, d)) : d.size < c.size := by
  have pulled := c.pulled target
  rw [answered] at pulled
  cases pulled with
  | any handed => exact size_next handed
  | before handed _ => exact size_next handed

/-- All classes before the target. -/
def sweep (c : Cursor α) (target : Option ClassName) : Except Misuse (List α × Cursor α) :=
  match _pulled : c.pull target with
  | .error e => .error e
  | .ok (none, c) => .ok ([], c)
  | .ok (some item, c) => (c.sweep target).map fun (items, c) => (item :: items, c)
termination_by c.size
decreasing_by exact size_pull _pulled

/-! ## No misuse -/

theorem findTarget_isOk (c : Cursor α) (target : ClassName) : ∃ answer, c.findTarget target = .ok answer := by
  fun_induction findTarget c target with
  | case1 => exact ⟨_, rfl⟩
  | case2 _ _ _ _ _ ih => exact ih
  | case3 => exact ⟨_, rfl⟩
  | case4 _ item c handed _ =>
    rw [giveBack_of_yielded item (next_eq_some handed).2.1]
    exact ⟨_, rfl⟩

theorem find_isOk (c : Cursor α) (target : Option ClassName) : ∃ answer, c.find target = .ok answer := by
  cases target with
  | none => exact ⟨_, rfl⟩
  | some target => exact findTarget_isOk c target

theorem pull_isOk (c : Cursor α) (target : Option ClassName) : ∃ answer, c.pull target = .ok answer := by
  have pulled := c.pulled target
  generalize c.pull target = answer at pulled ⊢
  cases pulled <;> exact ⟨_, rfl⟩

theorem pull_ne_error (c : Cursor α) (target : Option ClassName) (e : Misuse) : c.pull target ≠ .error e := by
  obtain ⟨answer, ok⟩ := pull_isOk c target
  rw [ok]
  exact nofun

theorem sweep_isOk (c : Cursor α) (target : Option ClassName) : ∃ answer, c.sweep target = .ok answer := by
  fun_induction sweep c target with
  | case1 c e failed => exact absurd failed (c.pull_ne_error target e)
  | case2 => exact ⟨_, rfl⟩
  | case3 c item c' pulled ih =>
    obtain ⟨answer, ok⟩ := ih
    rw [ok]
    exact ⟨_, rfl⟩

end SignatureLint.Cursor
