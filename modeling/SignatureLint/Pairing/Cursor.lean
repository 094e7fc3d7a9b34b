/-!
# A cursor that takes one item back

A cursor hands out the items of a list in order. The item it handed out last can be given back once,
and is the next one handed out; any item can be given back in its place. Giving back is refused where
nothing was handed out since the last time, and the refusal says why.

A cursor keeps the item that was given back, and a slot that says what happened last. The two agree:
an item waits just if the slot says that one was given back (`Cursor.agree`), so each operation has to
set both.

The view of a cursor is the list of the items still to come (`Cursor.toList`): `next` takes its head
and `giveBack` puts an item before it.
-/

namespace SignatureLint

/-- What happened last. -/
inductive Slot where
  /-- No item was handed out since the start, or the last `next` found none. -/
  | vacant
  /-- An item was handed out. -/
  | yielded
  /-- An item was given back and is the next one. -/
  | givenBack
deriving DecidableEq, Repr

/-- A cursor over a list of items. -/
structure Cursor (α : Type) where
  source : List α
  /-- The item that was given back. -/
  parked : Option α
  slot : Slot
  /-- Whether a `next` has found no item. -/
  ranOut : Bool
  /-- An item waits just if one was given back. -/
  agree : parked.isSome = true ↔ slot = .givenBack := by simp
deriving DecidableEq, Repr

/-- Why an item cannot be given back. -/
inductive Cursor.Misuse where
  | nothingYielded
  | alreadyParked
  | exhausted
deriving DecidableEq, Repr

namespace Cursor

namespace Misuse

def message : Misuse → String
  | .nothingYielded => "retry requested before any element was yielded"
  | .alreadyParked => "retry requested twice without an intervening next()"
  | .exhausted => "retry requested after the cursor was exhausted"

end Misuse

variable {α : Type}

def ofList (items : List α) : Cursor α := { source := items, parked := none, slot := .vacant, ranOut := false }

/-- The items still to come. -/
def toList (c : Cursor α) : List α := c.parked.toList ++ c.source

/-- The number of items still to come. -/
def size (c : Cursor α) : Nat := c.toList.length

/-- Bounds on the number of items still to come: those of the source, and one more if an item waits. -/
def sizeHint (c : Cursor α) : Nat × Option Nat :=
  let waiting := if c.parked.isSome then 1 else 0
  (c.source.length + waiting, some (c.source.length + waiting))

/-- Whether an item that was given back waits. -/
def isParked (c : Cursor α) : Bool := c.slot = .givenBack

/-- Hands out the next item. -/
def next (c : Cursor α) : Option α × Cursor α :=
  match c.parked, c.source with
  | some item, source => (some item, { source, parked := none, slot := .yielded, ranOut := c.ranOut })
  | none, item :: source => (some item, { source, parked := none, slot := .yielded, ranOut := c.ranOut })
  | none, [] => (none, { source := [], parked := none, slot := .vacant, ranOut := true })

/-- The cursor with an item before the others. -/
def park (c : Cursor α) (item : α) : Cursor α :=
  { source := c.source, parked := some item, slot := .givenBack, ranOut := c.ranOut }

/-- Takes an item back. -/
def giveBack (c : Cursor α) (item : α) : Except Misuse (Cursor α) :=
  match c.slot with
  | .yielded => .ok (c.park item)
  | .givenBack => .error .alreadyParked
  | .vacant => .error (if c.ranOut then .exhausted else .nothingYielded)

/-! ## The view -/

theorem toList_ofList (items : List α) : (ofList items).toList = items := rfl

/-- No item waits unless one was given back. -/
theorem toList_of_slot_ne {c : Cursor α} (free : c.slot ≠ .givenBack) : c.toList = c.source := by
  have nothing : c.parked = none := by
    rw [← Option.not_isSome_iff_eq_none, c.agree]
    exact free
  rw [toList, nothing]
  rfl

theorem next_eq_some {c d : Cursor α} {item : α} (handed : c.next = (some item, d)) :
    c.toList = item :: d.toList ∧ d.slot = .yielded ∧ d.ranOut = c.ranOut := by
  unfold next at handed
  split at handed
  next parked =>
    cases handed
    simp [toList, parked]
  next nothing cons =>
    cases handed
    simp [toList, nothing, cons]
  · cases handed

theorem next_eq_none {c d : Cursor α} (handed : c.next = (none, d)) :
    c.toList = [] ∧ d.toList = [] ∧ d.slot = .vacant ∧ d.ranOut = true := by
  unfold next at handed
  split at handed
  · cases handed
  · cases handed
  next nothing nil =>
    cases handed
    simp [toList, nothing, nil]

theorem size_next {c d : Cursor α} {item : α} (handed : c.next = (some item, d)) : d.size < c.size := by
  rw [size, size, (next_eq_some handed).1]
  simp

theorem toList_park (c : Cursor α) (item : α) : (c.park item).toList = item :: c.source := rfl

/-- What was just handed out can always be given back. -/
theorem giveBack_of_yielded {c : Cursor α} (item : α) (handed : c.slot = .yielded) :
    c.giveBack item = .ok (c.park item) := by
  simp [giveBack, handed]

/-- An item that is given back comes before all others. -/
theorem toList_park_of_yielded {c : Cursor α} (item : α) (handed : c.slot = .yielded) :
    (c.park item).toList = item :: c.toList := by
  rw [toList_park, toList_of_slot_ne (by simp [handed])]

end Cursor

end SignatureLint
