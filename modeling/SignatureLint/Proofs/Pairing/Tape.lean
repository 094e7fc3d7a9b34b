import SignatureLint.Proofs.Pairing.Order
import SignatureLint.Pairing.Seek

/-!
# A cursor as a tape

A `Tape` is a list of items and the steps that were made on it. What a step may do is told by the steps before it:
an item can be given back if the latest step handed one out, and a refusal says whether one was given back
already, or else whether a step ever found no item. Longer operations are told by the items before their target:
these are handed out one by one, and the item behind them is taken, or is handed out and given back.

A cursor `Shows` a tape if it has the items of the tape and its slot and its flag agree with the steps. Each
operation keeps this (`Shows.perform`), so a cursor answers every sequence of operations as its tape does
(`run_eq_tape`). Every cursor shows some tape (`shows_tape`), so no look-up is ever refused.
-/

namespace SignatureLint.Cursor

/-! ## Tapes -/

/-- A step on a cursor. A refused one is none. -/
inductive Step where
  /-- An item was handed out. -/
  | handedOut
  /-- There was no item to hand out. -/
  | foundNone
  /-- An item was given back. -/
  | tookBack
deriving DecidableEq, Repr

/-- A list of items, and the steps made so far, the latest first. -/
structure Tape (α : Type) where
  items : List α
  past : List Step

/-- Whether an item comes before a target. All do if there is none. -/
def precedes {α : Type} [Named α] (target : Option ClassName) (item : α) : Bool :=
  target.all fun target => (className item).Before target

namespace Tape

variable {α : Type} [Named α]

def ofList (items : List α) : Tape α := { items, past := [] }

/-- Whether an item waits that was given back. -/
def isParked (t : Tape α) : Bool := t.past.head? = some .tookBack

/-- Takes the head. -/
def next (t : Tape α) : Option α × Tape α :=
  match t.items with
  | [] => (none, { t with past := .foundNone :: t.past })
  | item :: items => (some item, { items, past := .handedOut :: t.past })

/-- Puts an item at the head, if the latest step handed one out. -/
def giveBack (t : Tape α) (item : α) : Except Misuse (Tape α) :=
  if t.past.head? = some .handedOut then .ok { items := item :: t.items, past := .tookBack :: t.past }
  else if t.isParked then .error .alreadyParked
  else if .foundNone ∈ t.past then .error .exhausted
  else .error .nothingYielded

/-- The tape past its first `n` items, each handed out. -/
def skip (n : Nat) (t : Tape α) : Tape α :=
  { items := t.items.drop n, past := List.replicate n .handedOut ++ t.past }

/-- The items before the target. -/
def before (target : Option ClassName) (t : Tape α) : List α := t.items.takeWhile (precedes target)

/-- Past the items before the target: takes the item of its name, and gives any other back. -/
def stop (target : Option ClassName) (t : Tape α) : Option α × Tape α :=
  let t := t.skip (t.before target).length
  match t.items with
  | [] => (none, { t with past := .foundNone :: t.past })
  | item :: items =>
    if target = some (className item) then (some item, { items, past := .handedOut :: t.past })
    else (none, { t with past := .tookBack :: .handedOut :: t.past })

/-- The item with the name of the target; none, and nothing is done, without a target. -/
def find (target : Option ClassName) (t : Tape α) : Option α × Tape α :=
  if target = none then (none, t) else t.stop target

/-- All items before the target. -/
def sweep (target : Option ClassName) (t : Tape α) : List α × Tape α := (t.before target, (t.stop target).2)

/-- At most `n` items before the target. The end is met only if more are asked for than there are. -/
def take (n : Nat) (target : Option ClassName) (t : Tape α) : List α × Tape α :=
  if n ≤ (t.before target).length then ((t.before target).take n, t.skip n) else t.sweep target

/-- The answers to `n` pulls: the items before the target, and none from then on. -/
def pulls (n : Nat) (target : Option ClassName) (t : Tape α) : List (Option α) × Tape α :=
  ((t.take n target).1.map some ++ List.replicate (n - (t.before target).length) none, (t.take n target).2)

end Tape

/-! ## Operations -/

/-- What can be done with a cursor. -/
inductive Operation (α : Type) where
  | next
  | giveBack (item : α)
  | find (target : Option ClassName)
  /-- Takes all classes before the target. -/
  | sweep (target : Option ClassName)
  /-- Takes at most `n` classes before the target. -/
  | take (n : Nat) (target : Option ClassName)
  /-- Pulls `n` times at the classes before the target, whether there are so many or not. -/
  | pulls (n : Nat) (target : Option ClassName)

/-- What an operation answers. -/
inductive Answer (α : Type) where
  | item (item : Option α)
  /-- Why an item was not taken back; none if it was. -/
  | back (refused : Option Misuse)
  | items (items : List α)
  | pulled (answers : List (Option α))

/-- What is seen of an operation: its answer, then whether an item waits that was given back, and bounds on the
number of items to come. -/
structure Sight (α : Type) where
  answer : Answer α
  isParked : Bool
  sizeHint : Nat × Option Nat

section

variable {α : Type} [Named α]

/-- Does an operation. A refusal to give back is an answer; a refused look-up is an error. -/
def perform (c : Cursor α) : Operation α → Except Misuse (Answer α × Cursor α)
  | .next => .ok (.item c.next.1, c.next.2)
  | .giveBack item =>
    match c.giveBack item with
    | .ok c => .ok (.back none, c)
    | .error why => .ok (.back (some why), c)
  | .find target => (c.find target).map fun (item, c) => (.item item, c)
  | .sweep target => (c.sweep target).map fun (items, c) => (.items items, c)
  | .take n target => (Sweep.take n (.start c target)).map fun (items, s) => (.items items, s.cursor)
  | .pulls n target => (Sweep.pulls n (.start c target)).map fun (answers, s) => (.pulled answers, s.cursor)

/-- Does operations one after the other. -/
def run (c : Cursor α) : List (Operation α) → Except Misuse (List (Sight α) × Cursor α)
  | [] => .ok ([], c)
  | operation :: operations => do
    let (answer, c) ← c.perform operation
    let (sights, last) ← c.run operations
    return (⟨answer, c.isParked, c.sizeHint⟩ :: sights, last)

/-- What an operation answers on a tape. -/
def Tape.perform (t : Tape α) : Operation α → Answer α × Tape α
  | .next => (.item t.next.1, t.next.2)
  | .giveBack item =>
    match t.giveBack item with
    | .ok t => (.back none, t)
    | .error why => (.back (some why), t)
  | .find target => (.item (t.find target).1, (t.find target).2)
  | .sweep target => (.items (t.sweep target).1, (t.sweep target).2)
  | .take n target => (.items (t.take n target).1, (t.take n target).2)
  | .pulls n target => (.pulled (t.pulls n target).1, (t.pulls n target).2)

/-- What operations answer on a tape, one after the other. -/
def Tape.run (t : Tape α) : List (Operation α) → List (Sight α) × Tape α
  | [] => ([], t)
  | operation :: operations =>
    let (answer, t) := t.perform operation
    let (sights, last) := t.run operations
    (⟨answer, t.isParked, (t.items.length, some t.items.length)⟩ :: sights, last)

end

/-! ## What a cursor shows -/

variable {α : Type} {c d : Cursor α} {t : Tape α} {item : α}

/-- The cursor has the items of the tape; its slot tells the latest step, and its flag whether a step ever found
no item. -/
structure Shows (c : Cursor α) (t : Tape α) : Prop where
  items : c.toList = t.items
  yielded : c.slot = .yielded ↔ t.past.head? = some .handedOut
  parked : c.isParked = t.isParked
  ranOut : c.ranOut = true ↔ .foundNone ∈ t.past

theorem shows_ofList (items : List α) : (Cursor.ofList items).Shows (.ofList items) where
  items := rfl
  yielded := ⟨nofun, nofun⟩
  parked := rfl
  ranOut := ⟨nofun, nofun⟩

/-- A tape for a cursor: one on which its slot and its flag came about in a step each. -/
def tape (c : Cursor α) : Tape α :=
  let latest := match c.slot with
    | .vacant => []
    | .yielded => [.handedOut]
    | .givenBack => [.tookBack]
  { items := c.toList, past := latest ++ if c.ranOut then [.foundNone] else [] }

theorem shows_tape (c : Cursor α) : c.Shows c.tape := by
  refine ⟨rfl, ?_, ?_, ?_⟩
  · cases slot : c.slot <;> cases ranOut : c.ranOut <;> simp [tape, slot, ranOut]
  · cases slot : c.slot <;> cases ranOut : c.ranOut <;> simp [tape, Tape.isParked, isParked, slot, ranOut]
  · cases slot : c.slot <;> cases ranOut : c.ranOut <;> simp [tape, slot, ranOut]

theorem Shows.sizeHint_eq (shows : c.Shows t) : c.sizeHint = (t.items.length, some t.items.length) := by
  rw [← shows.items, sizeHint, toList]
  cases c.parked with
  | none => rfl
  | some item => rfl

/-! ## Single steps -/

/-- A cursor that has just handed an item out shows the tape past it. -/
theorem Shows.of_next_eq_some (shows : c.Shows t) (handed : c.next = (some item, d)) :
    t.items = item :: d.toList ∧ d.Shows { items := d.toList, past := .handedOut :: t.past } := by
  obtain ⟨items, yielded, ranOut⟩ := next_eq_some handed
  refine ⟨shows.items ▸ items, rfl, by simp [yielded], ?_, ?_⟩
  · simp [isParked, Tape.isParked, yielded]
  · rw [ranOut, shows.ranOut]
    simp

/-- A cursor that has found no item shows the empty tape. -/
theorem Shows.of_next_eq_none (shows : c.Shows t) (handed : c.next = (none, d)) :
    t.items = [] ∧ d.Shows { items := [], past := .foundNone :: t.past } := by
  obtain ⟨nothing, nothing', vacant, ranOut⟩ := next_eq_none handed
  refine ⟨shows.items ▸ nothing, nothing', by simp [vacant], ?_, by simp [ranOut]⟩
  simp [isParked, Tape.isParked, vacant]

theorem Shows.next (shows : c.Shows t) : c.next.1 = t.next.1 ∧ c.next.2.Shows t.next.2 := by
  obtain ⟨items, past⟩ := t
  cases handed : c.next with
  | mk answer d =>
    cases answer with
    | none =>
      obtain ⟨rfl, after⟩ := shows.of_next_eq_none handed
      exact ⟨rfl, after⟩
    | some item =>
      obtain ⟨rfl, after⟩ := shows.of_next_eq_some handed
      exact ⟨rfl, after⟩

/-- Past an item that was handed out, this item or any other can be put before the rest. -/
theorem Shows.park (shows : c.Shows t) (handed : t.past.head? = some .handedOut) (item : α) :
    (c.park item).Shows { items := item :: t.items, past := .tookBack :: t.past } := by
  refine ⟨?_, by simp [Cursor.park], rfl, ?_⟩
  · rw [toList_park_of_yielded item (shows.yielded.mpr handed), shows.items]
  · rw [Cursor.park, shows.ranOut]
    simp

/-- A refusal has the reason that the tape tells. -/
theorem Shows.giveBack_refused (shows : c.Shows t) (handed : t.past.head? ≠ some .handedOut) (item : α) :
    ∃ why, c.giveBack item = .error why ∧ t.giveBack item = .error why := by
  have parked := shows.parked
  cases slot : c.slot with
  | yielded => exact absurd (shows.yielded.mp slot) handed
  | givenBack =>
    refine ⟨.alreadyParked, by simp [Cursor.giveBack, slot], ?_⟩
    have waits : t.isParked = true := by simp [← parked, isParked, slot]
    rw [Tape.giveBack, if_neg handed, if_pos waits]
  | vacant =>
    refine ⟨if c.ranOut then .exhausted else .nothingYielded, by simp [Cursor.giveBack, slot], ?_⟩
    have free : ¬ t.isParked = true := by simp [← parked, isParked, slot]
    rw [Tape.giveBack, if_neg handed, if_neg free]
    by_cases ranOut : c.ranOut = true
    · rw [if_pos ranOut, if_pos (shows.ranOut.mp ranOut)]
    · rw [if_neg ranOut, if_neg fun found => ranOut (shows.ranOut.mpr found)]

/-! ## The items before a target -/

theorem Tape.skip_cons {items : List α} {past : List Step} (n : Nat) :
    skip (n + 1) { items := item :: items, past } = skip n { items, past := .handedOut :: past } := by
  simp only [skip, List.drop_succ_cons, List.replicate_succ', List.append_assoc, List.singleton_append]

variable [Named α]

theorem precedes_iff {target : ClassName} : precedes (some target) item = true ↔ (className item).Before target :=
  decide_eq_true_iff

theorem not_precedes_of_eq {target : ClassName} (same : className item = target) :
    ¬ precedes (some target) item = true := by
  rw [precedes_iff, same]
  exact ClassName.not_before_self target

theorem not_precedes_of_after {target : ClassName} (after : target.Before (className item)) :
    ¬ precedes (some target) item = true := fun passed => after.asymm (precedes_iff.mp passed)

namespace Tape

variable {items : List α} {past : List Step}

section

variable {target : Option ClassName}

theorem before_cons_of_precedes (passed : precedes target item = true) :
    before target { items := item :: items, past } =
      item :: before target { items, past := .handedOut :: past } :=
  List.takeWhile_cons_of_pos passed

theorem before_cons_of_not (stopped : ¬ precedes target item = true) :
    before target { items := item :: items, past } = [] := List.takeWhile_cons_of_neg stopped

theorem stop_cons_of_precedes (passed : precedes target item = true) :
    stop target { items := item :: items, past } = stop target { items, past := .handedOut :: past } := by
  rw [stop, stop, before_cons_of_precedes passed, List.length_cons, skip_cons]

theorem sweep_cons_of_precedes (passed : precedes target item = true) :
    sweep target { items := item :: items, past } =
      (item :: (sweep target { items, past := .handedOut :: past }).1,
        (sweep target { items, past := .handedOut :: past }).2) := by
  simp only [sweep, before_cons_of_precedes passed, stop_cons_of_precedes passed]

theorem take_cons_of_precedes (passed : precedes target item = true) (n : Nat) :
    take (n + 1) target { items := item :: items, past } =
      (item :: (take n target { items, past := .handedOut :: past }).1,
        (take n target { items, past := .handedOut :: past }).2) := by
  simp only [take, sweep_cons_of_precedes passed, before_cons_of_precedes passed, List.length_cons,
    Nat.add_le_add_iff_right, List.take_succ_cons, skip_cons]
  split
  · rfl
  · rfl

theorem pulls_cons_of_precedes (passed : precedes target item = true) (n : Nat) :
    pulls (n + 1) target { items := item :: items, past } =
      (some item :: (pulls n target { items, past := .handedOut :: past }).1,
        (pulls n target { items, past := .handedOut :: past }).2) := by
  simp only [pulls, take_cons_of_precedes passed, before_cons_of_precedes passed, List.length_cons,
    Nat.add_sub_add_right, List.map_cons, List.cons_append]

theorem sweep_of_before_eq_nil (nothing : t.before target = []) : t.sweep target = ([], (t.stop target).2) := by
  rw [sweep, nothing]

/-- Where no item comes before the target, to ask for one is to meet the end. -/
theorem take_of_before_eq_nil (nothing : t.before target = []) (n : Nat) :
    t.take (n + 1) target = ([], (t.stop target).2) := by
  rw [take, nothing, List.length_nil, if_neg (Nat.not_succ_le_zero n), sweep_of_before_eq_nil nothing]

theorem pulls_of_before_eq_nil (nothing : t.before target = []) (n : Nat) :
    t.pulls (n + 1) target = (List.replicate (n + 1) none, (t.stop target).2) := by
  rw [pulls, take_of_before_eq_nil nothing, nothing]
  rfl

end

variable {target : ClassName}

theorem stop_cons_of_eq (same : className item = target) :
    stop (some target) { items := item :: items, past } = (some item, { items, past := .handedOut :: past }) := by
  rw [stop, before_cons_of_not (not_precedes_of_eq same)]
  exact if_pos (congrArg some same.symm)

theorem stop_cons_of_after (after : target.Before (className item)) :
    stop (some target) { items := item :: items, past } =
      (none, { items := item :: items, past := .tookBack :: .handedOut :: past }) := by
  rw [stop, before_cons_of_not (not_precedes_of_after after)]
  exact if_neg fun same => after.ne (Option.some.inj same)

end Tape

/-! ## Longer operations -/

/-- A look-up stops where the tape does. -/
theorem Shows.findTarget (shows : c.Shows t) (target : ClassName) :
    ∃ d, c.findTarget target = .ok ((t.stop (some target)).1, d) ∧ d.Shows (t.stop (some target)).2 := by
  obtain ⟨items, past⟩ := t
  fun_induction Cursor.findTarget c target generalizing items past with
  | case1 c d handed =>
    obtain ⟨rfl, after⟩ := shows.of_next_eq_none handed
    exact ⟨d, rfl, after⟩
  | case2 c item d handed before ih =>
    obtain ⟨rfl, after⟩ := shows.of_next_eq_some handed
    rw [Tape.stop_cons_of_precedes (precedes_iff.mpr before)]
    exact ih _ _ after
  | case3 c item d handed same =>
    obtain ⟨rfl, after⟩ := shows.of_next_eq_some handed
    rw [Tape.stop_cons_of_eq (ClassName.compare_eq_eq_iff.mp same)]
    exact ⟨d, rfl, after⟩
  | case4 c item d handed later =>
    obtain ⟨rfl, after⟩ := shows.of_next_eq_some handed
    rw [Tape.stop_cons_of_after (ClassName.compare_eq_gt_iff.mp later),
      giveBack_of_yielded item (after.yielded.mpr rfl)]
    exact ⟨d.park item, rfl, after.park rfl item⟩

theorem Shows.find (shows : c.Shows t) (target : Option ClassName) :
    ∃ d, c.find target = .ok ((t.find target).1, d) ∧ d.Shows (t.find target).2 := by
  cases target with
  | none => exact ⟨c, rfl, shows⟩
  | some target => exact shows.findTarget target

/-- A pull hands out the next item before the target, or stops as the tape does. -/
theorem Shows.pull (shows : c.Shows t) (target : Option ClassName) :
    (∃ item d, c.pull target = .ok (some item, d) ∧ t.items = item :: d.toList ∧ precedes target item = true ∧
      d.Shows { items := d.toList, past := .handedOut :: t.past }) ∨
    (∃ d, c.pull target = .ok (none, d) ∧ t.before target = [] ∧ d.Shows (t.stop target).2) := by
  obtain ⟨items, past⟩ := t
  have pulled := c.pulled target
  generalize c.pull target = answer at pulled ⊢
  cases pulled with
  | @nothing _ d handed =>
    obtain ⟨rfl, after⟩ := shows.of_next_eq_none handed
    exact .inr ⟨d, rfl, rfl, after⟩
  | @any item d handed =>
    obtain ⟨rfl, after⟩ := shows.of_next_eq_some handed
    exact .inl ⟨item, d, rfl, rfl, rfl, after⟩
  | @before item d _ handed before =>
    obtain ⟨rfl, after⟩ := shows.of_next_eq_some handed
    exact .inl ⟨item, d, rfl, rfl, precedes_iff.mpr before, after⟩
  | @named item d _ handed compared =>
    have same := ClassName.compare_eq_eq_iff.mp compared
    obtain ⟨rfl, after⟩ := shows.of_next_eq_some handed
    refine .inr ⟨d, rfl, Tape.before_cons_of_not (not_precedes_of_eq same), ?_⟩
    rw [Tape.stop_cons_of_eq same]
    exact after
  | @after item d _ handed compared =>
    have later := ClassName.compare_eq_gt_iff.mp compared
    obtain ⟨rfl, after⟩ := shows.of_next_eq_some handed
    refine .inr ⟨d.park item, rfl, Tape.before_cons_of_not (not_precedes_of_after later), ?_⟩
    rw [Tape.stop_cons_of_after later]
    exact after.park rfl item

theorem Shows.sweep (shows : c.Shows t) (target : Option ClassName) :
    ∃ d, c.sweep target = .ok ((t.sweep target).1, d) ∧ d.Shows (t.sweep target).2 := by
  obtain ⟨items, past⟩ := t
  fun_induction Cursor.sweep c target generalizing items past with
  | case1 c e failed => exact absurd failed (c.pull_ne_error target e)
  | case2 c d pulled =>
    rcases shows.pull target with ⟨item, d', pulled', -⟩ | ⟨d', pulled', nothing, after⟩
    · rw [pulled'] at pulled; cases pulled
    · rw [pulled'] at pulled
      cases pulled
      rw [Tape.sweep_of_before_eq_nil nothing]
      exact ⟨d, rfl, after⟩
  | case3 c item d pulled ih =>
    rcases shows.pull target with ⟨item', d', pulled', rfl, passed, after⟩ | ⟨d', pulled', -⟩
    · rw [pulled'] at pulled
      cases pulled
      obtain ⟨e, swept, last⟩ := ih _ _ after
      rw [Tape.sweep_cons_of_precedes passed]
      exact ⟨e, by rw [swept]; rfl, last⟩
    · rw [pulled'] at pulled; cases pulled

theorem next_start_of_some {target : Option ClassName} (pulled : c.pull target = .ok (some item, d)) :
    (Sweep.start c target).next = .ok (some item, .start d target) := by
  simp [Sweep.next, Sweep.start, pulled, Except.map]

theorem next_start_of_none {target : Option ClassName} (pulled : c.pull target = .ok (none, d)) :
    (Sweep.start c target).next = .ok (none, ⟨d, target, true⟩) := by
  simp [Sweep.next, Sweep.start, pulled, Except.map]

theorem Shows.take (shows : c.Shows t) (target : Option ClassName) (n : Nat) :
    ∃ s, Sweep.take n (.start c target) = .ok ((t.take n target).1, s) ∧ s.cursor.Shows (t.take n target).2 := by
  obtain ⟨items, past⟩ := t
  induction n generalizing c items past with
  | zero =>
    refine ⟨.start c target, by simp [Sweep.take, Tape.take], ?_⟩
    rw [Tape.take, if_pos (Nat.zero_le _)]
    exact shows
  | succ n ih =>
    rcases shows.pull target with ⟨item, d, pulled, rfl, passed, after⟩ | ⟨d, pulled, nothing, after⟩
    · obtain ⟨s, taken, last⟩ := ih _ _ after
      rw [Tape.take_cons_of_precedes passed]
      refine ⟨s, ?_, last⟩
      simp only [Sweep.take, next_start_of_some pulled, taken, bind, Except.bind, pure, Except.pure]
    · rw [Tape.take_of_before_eq_nil nothing]
      refine ⟨⟨d, target, true⟩, ?_, after⟩
      simp only [Sweep.take, next_start_of_none pulled, bind, Except.bind, pure, Except.pure]

/-- Pulls past the end answer none and leave the cursor alone. -/
theorem pulls_done (n : Nat) (s : Sweep α) (done : s.done = true) :
    Sweep.pulls n s = .ok (List.replicate n none, s) := by
  induction n with
  | zero => rfl
  | succ n ih => simp [Sweep.pulls, Sweep.next, done, ih, bind, Except.bind, pure, Except.pure, List.replicate_succ]

theorem Shows.pulls (shows : c.Shows t) (target : Option ClassName) (n : Nat) :
    ∃ s, Sweep.pulls n (.start c target) = .ok ((t.pulls n target).1, s) ∧ s.cursor.Shows (t.pulls n target).2 := by
  obtain ⟨items, past⟩ := t
  induction n generalizing c items past with
  | zero =>
    refine ⟨.start c target, by simp [Sweep.pulls, Tape.pulls, Tape.take], ?_⟩
    rw [Tape.pulls, Tape.take, if_pos (Nat.zero_le _)]
    exact shows
  | succ n ih =>
    rcases shows.pull target with ⟨item, d, pulled, rfl, passed, after⟩ | ⟨d, pulled, nothing, after⟩
    · obtain ⟨s, answered, last⟩ := ih _ _ after
      rw [Tape.pulls_cons_of_precedes passed]
      refine ⟨s, ?_, last⟩
      simp only [Sweep.pulls, next_start_of_some pulled, answered, bind, Except.bind, pure, Except.pure]
    · rw [Tape.pulls_of_before_eq_nil nothing]
      refine ⟨⟨d, target, true⟩, ?_, after⟩
      have rest := pulls_done n ⟨d, target, true⟩ rfl
      simp only [Sweep.pulls, next_start_of_none pulled, rest, bind, Except.bind, pure, Except.pure,
        List.replicate_succ]

/-! ## Sequences of operations -/

/-- **Each operation answers as it does on the tape**, and the cursor shows the tape that is left. -/
theorem Shows.perform (shows : c.Shows t) (operation : Operation α) :
    ∃ d, c.perform operation = .ok ((t.perform operation).1, d) ∧ d.Shows (t.perform operation).2 := by
  cases operation with
  | next =>
    obtain ⟨answer, after⟩ := shows.next
    exact ⟨c.next.2, by rw [Cursor.perform, answer]; rfl, after⟩
  | giveBack item =>
    by_cases handed : t.past.head? = some .handedOut
    · have back := giveBack_of_yielded item (shows.yielded.mpr handed)
      refine ⟨c.park item, ?_, ?_⟩
      · simp [Cursor.perform, back, Tape.perform, Tape.giveBack, handed]
      · simpa [Tape.perform, Tape.giveBack, handed] using shows.park handed item
    · obtain ⟨why, refused, refused'⟩ := shows.giveBack_refused handed item
      refine ⟨c, ?_, ?_⟩
      · simp [Cursor.perform, refused, Tape.perform, refused']
      · simpa [Tape.perform, refused'] using shows
  | find target =>
    obtain ⟨d, found, after⟩ := shows.find target
    exact ⟨d, by rw [Cursor.perform, found]; rfl, after⟩
  | sweep target =>
    obtain ⟨d, swept, after⟩ := shows.sweep target
    exact ⟨d, by rw [Cursor.perform, swept]; rfl, after⟩
  | take n target =>
    obtain ⟨s, taken, after⟩ := shows.take target n
    exact ⟨s.cursor, by rw [Cursor.perform, taken]; rfl, after⟩
  | pulls n target =>
    obtain ⟨s, answered, after⟩ := shows.pulls target n
    exact ⟨s.cursor, by rw [Cursor.perform, answered]; rfl, after⟩

theorem Shows.run (shows : c.Shows t) (operations : List (Operation α)) :
    ∃ d, c.run operations = .ok ((t.run operations).1, d) ∧ d.Shows (t.run operations).2 := by
  induction operations generalizing c t with
  | nil => exact ⟨c, rfl, shows⟩
  | cons operation operations ih =>
    obtain ⟨d, answered, after⟩ := shows.perform operation
    obtain ⟨e, more, last⟩ := ih after
    refine ⟨e, ?_, last⟩
    simp only [Cursor.run, answered, more, bind, Except.bind, pure, Except.pure, Tape.run, after.parked,
      after.sizeHint_eq]

/-- **A cursor is a list that takes one item back.** Whatever is done with a cursor over a list, each operation
answers as on the tape of the list, with the same item in waiting and the number of items left as both bounds;
in the end the cursor has the items of the tape, and its slot and flag tell the steps. No operation is an error,
whatever cursor it starts from. -/
theorem run_eq_tape (items : List α) (operations : List (Operation α)) :
    (∃ c, (ofList items).run operations = .ok (((Tape.ofList items).run operations).1, c) ∧
      c.Shows ((Tape.ofList items).run operations).2) ∧
      ∀ c : Cursor α, ∃ answer, c.run operations = .ok answer := by
  refine ⟨(shows_ofList items).run operations, fun c => ?_⟩
  obtain ⟨d, answered, -⟩ := c.shows_tape.run operations
  exact ⟨_, answered⟩

end SignatureLint.Cursor
