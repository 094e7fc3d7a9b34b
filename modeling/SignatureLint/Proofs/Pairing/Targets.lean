import SignatureLint.Proofs.Pairing.Seek
import SignatureLint.Proofs.Pairing.Tape

/-!
# Two look-ups, one state

A look-up and a sweep for one target are separate loops, yet they leave a cursor in the same state, slot and flag
included: past the items before the target, and past the item of its name if that is next (`find_sweep`). The tape
of a cursor tells them both, and no two cursors show one tape (`Shows.unique`). So a sweep can take the place of a
look-up whose answer is not needed, and a sweep that is left half-way loses nothing.

Look-ups for several targets follow each other on one cursor (`findEach`). If the targets are increasing, and so are
the items, each is found if it is there, since what a look-up passes over comes before all later targets.
-/

namespace SignatureLint

namespace Cursor

variable {α : Type}

/-! ## Cursors that show one tape -/

theorem ext {c d : Cursor α} (source : c.source = d.source) (parked : c.parked = d.parked) (slot : c.slot = d.slot)
    (ranOut : c.ranOut = d.ranOut) : c = d := by
  cases c
  cases d
  cases source
  cases parked
  cases slot
  cases ranOut
  rfl

/-- An item waits just in the slot for it. -/
theorem isParked_eq (c : Cursor α) : c.isParked = c.parked.isSome := by
  rw [isParked, Bool.eq_iff_iff, decide_eq_true_iff, c.agree]

/-- The tape tells all of a cursor. -/
theorem Shows.unique {c d : Cursor α} {t : Tape α} (hc : c.Shows t) (hd : d.Shows t) : c = d := by
  have parkedAlike : c.isParked = d.isParked := hc.parked.trans hd.parked.symm
  have slot : c.slot = d.slot := by
    have yielded : c.slot = .yielded ↔ d.slot = .yielded := hc.yielded.trans hd.yielded.symm
    have givenBack : c.slot = .givenBack ↔ d.slot = .givenBack := by
      simpa only [isParked, decide_eq_decide] using parkedAlike
    cases hc' : c.slot <;> cases hd' : d.slot <;> simp_all
  have ranOut : c.ranOut = d.ranOut := Bool.eq_iff_iff.mpr (hc.ranOut.trans hd.ranOut.symm)
  have items : c.parked.toList ++ c.source = d.parked.toList ++ d.source := hc.items.trans hd.items.symm
  have waiting : c.parked.isSome = d.parked.isSome := by
    rw [← isParked_eq, ← isParked_eq, parkedAlike]
  cases hc' : c.parked with
  | none =>
    have empty : d.parked = none := by simpa [hc'] using waiting.symm
    rw [hc', empty] at items
    exact ext items (hc'.trans empty.symm) slot ranOut
  | some item =>
    obtain ⟨item', parked⟩ : ∃ item', d.parked = some item' := Option.isSome_iff_exists.mp (by rw [← waiting, hc']; rfl)
    rw [hc', parked] at items
    obtain ⟨rfl, source⟩ := List.cons.inj items
    exact ext source (hc'.trans parked.symm) slot ranOut

variable [Named α]

/-! ## A target -/

/-- The items before a target. -/
def before (c : Cursor α) (target : ClassName) : List α := c.toList.takeWhile (precedes (some target))

/-- The item behind them, if it has the name of the target. -/
def named (c : Cursor α) (target : ClassName) : Option α :=
  (c.toList.drop (c.before target).length).head?.filter fun item => className item = target

/-- The items that are left when both are gone. -/
def past (c : Cursor α) (target : ClassName) : List α :=
  c.toList.drop ((c.before target).length + (c.named target).toList.length)

/-- Where a tape stops, and what for, is told by the items that are left. -/
theorem stop_tape (c : Cursor α) (target : ClassName) :
    (c.tape.stop (some target)).1 = c.named target ∧ (c.tape.stop (some target)).2.items = c.past target := by
  have items : (c.tape.skip (c.tape.before (some target)).length).items =
      c.toList.drop (c.before target).length := rfl
  rw [past, ← List.drop_drop, named, Tape.stop, items]
  cases left : c.toList.drop (c.before target).length with
  | nil => exact ⟨rfl, rfl⟩
  | cons item rest =>
    dsimp only
    by_cases same : className item = target
    · rw [if_pos (congrArg some same.symm)]
      simp [Option.filter, same]
    · rw [if_neg fun equal => same (Option.some.inj equal).symm]
      simp [Option.filter, same]

/-- **A look-up and a sweep end in one state.** A sweep that is left before its end has taken nothing that it did not
hand out, and one that was asked for too much is in that state, too. -/
theorem find_sweep (c : Cursor α) (target : ClassName) :
    ∃ d, c.sweep (some target) = .ok (c.before target, d) ∧ c.find (some target) = .ok (c.named target, d) ∧
      d.toList = c.past target ∧
      ∀ k, ∃ s, Sweep.take k (.start c (some target)) = .ok ((c.before target).take k, s) ∧
        (k ≤ (c.before target).length → s.cursor.toList = c.toList.drop k) ∧
        ((c.before target).length < k → s.cursor = d) := by
  obtain ⟨d, swept, shows⟩ := c.shows_tape.sweep (some target)
  obtain ⟨d', found, shows'⟩ := c.shows_tape.find (some target)
  have find : c.tape.find (some target) = c.tape.stop (some target) := if_neg nofun
  rw [find] at found shows'
  obtain ⟨named, past⟩ := c.stop_tape target
  refine ⟨d, swept, ?_, shows.items.trans past, fun k => ?_⟩
  · rw [found, shows'.unique shows, named]
  obtain ⟨s, taken, left⟩ := c.shows_tape.take (some target) k
  by_cases within : k ≤ (c.before target).length
  · have first : c.tape.take k (some target) = ((c.before target).take k, c.tape.skip k) := if_pos within
    rw [first] at taken left
    exact ⟨s, taken, fun _ => left.items, fun beyond => absurd within (Nat.not_le.mpr beyond)⟩
  · have all : c.tape.take k (some target) = c.tape.sweep (some target) := if_neg within
    rw [all] at taken left
    refine ⟨s, ?_, fun within' => absurd within' within, fun _ => left.unique shows⟩
    rw [taken, List.take_of_length_le (Nat.le_of_not_le within)]
    rfl

/-! ## Several targets -/

/-- Looks up each target in turn. -/
def findEach (c : Cursor α) : List ClassName → Except Misuse (List (Option α) × Cursor α)
  | [] => .ok ([], c)
  | target :: targets => do
    let (found, c) ← c.find (some target)
    let (more, c) ← c.findEach targets
    return (found :: more, c)

/-- A look-up on increasing items answers the item of the name, and later names are still to come. -/
theorem find_of_increasing {c : Cursor α} (increasing : Increasing c.toList) (target : ClassName) :
    ∃ d, c.find (some target) = .ok (named? target c.toList, d) ∧ Increasing d.toList ∧
      ∀ later : ClassName, target.Before later → named? later d.toList = named? later c.toList := by
  obtain ⟨d, found, left⟩ := c.find_toList target
  rw [increasing.lookUp_eq] at found left
  refine ⟨d, found, left ▸ increasing.filter _, fun later before => ?_⟩
  rw [left]
  apply named?_filter
  rintro item - rfl
  exact decide_eq_true before

theorem findEach_of_increasing {c : Cursor α} (increasing : Increasing c.toList) {targets : List ClassName}
    (ordered : Increasing targets) :
    ∃ d, c.findEach targets = .ok (targets.map fun target => named? target c.toList, d) := by
  induction targets generalizing c with
  | nil => exact ⟨c, rfl⟩
  | cons target targets ih =>
    obtain ⟨above, ordered⟩ := increasing_cons.mp ordered
    obtain ⟨d, found, increasing', kept⟩ := find_of_increasing increasing target
    obtain ⟨e, more⟩ := ih increasing' ordered
    have same : targets.map (fun target => named? target d.toList) =
        targets.map fun target => named? target c.toList :=
      List.map_congr_left fun later mem => kept later (above later mem)
    refine ⟨e, ?_⟩
    simp only [findEach, found, more, same, bind, Except.bind, pure, Except.pure, List.map_cons]

/-- **Look-ups and sweeps agree.** Whatever state a cursor is in and in whatever order its items stand, a sweep for a
target hands out the longest run of items before it, a look-up answers the item behind them if it has the target's
name, and both leave the cursor in one state: past that run and past that item. A sweep that is asked for no more
items than the run has leaves all others. So, on increasing items, look-ups for increasing targets answer for each
target the item with its package and its full name, or none if there is none. -/
theorem find_sweep_findEach (c : Cursor α) :
    (∀ target, ∃ d, c.sweep (some target) = .ok (c.before target, d) ∧
      c.find (some target) = .ok (c.named target, d) ∧ d.toList = c.past target ∧
      ∀ k, ∃ s, Sweep.take k (.start c (some target)) = .ok ((c.before target).take k, s) ∧
        (k ≤ (c.before target).length → s.cursor.toList = c.toList.drop k) ∧
        ((c.before target).length < k → s.cursor = d)) ∧
    (Increasing c.toList → ∀ targets, Increasing targets →
      ∃ d, c.findEach targets = .ok (targets.map fun target => named? target c.toList, d)) :=
  ⟨c.find_sweep, fun increasing _ ordered => findEach_of_increasing increasing ordered⟩

/-- Items out of order, the first of which was given back. -/
def unordered : Cursor ClassName :=
  { source := [⟨"a", "A"⟩, ⟨"b", "B"⟩, ⟨"a", "C"⟩], parked := some ⟨"a", "B"⟩, slot := .givenBack, ranOut := false }

/-- Items in order, at the start. -/
def ordered : Cursor ClassName := .ofList [⟨"a", "z"⟩, ⟨"a.b", "A"⟩, ⟨"a.b", "C"⟩, ⟨"b", "A"⟩]

/-- The run before a target ends at the first item that does not come before it, even if a later one does; and the
order is by packages first. -/
theorem find_sweep_findEach_unordered :
    (∃ d, unordered.sweep (some ⟨"b", "A"⟩) = .ok ([⟨"a", "B"⟩, ⟨"a", "A"⟩], d) ∧
      unordered.find (some ⟨"b", "A"⟩) = .ok (none, d) ∧ d.toList = [⟨"b", "B"⟩, ⟨"a", "C"⟩]) ∧
    (∃ s, Sweep.take 1 (.start unordered (some ⟨"b", "A"⟩)) = .ok ([⟨"a", "B"⟩], s) ∧
      s.cursor.toList = [⟨"a", "A"⟩, ⟨"b", "B"⟩, ⟨"a", "C"⟩]) ∧
    Increasing ordered.toList ∧ Increasing [ClassName.mk "a" "z", ⟨"a.b", "B"⟩, ⟨"a.b", "C"⟩] ∧
    ∃ d, ordered.findEach [⟨"a", "z"⟩, ⟨"a.b", "B"⟩, ⟨"a.b", "C"⟩] =
      .ok ([some ⟨"a", "z"⟩, none, some ⟨"a.b", "C"⟩], d) := by
  obtain ⟨d, swept, found, left, taken⟩ := (find_sweep_findEach unordered).1 ⟨"b", "A"⟩
  have run : unordered.before ⟨"b", "A"⟩ = [⟨"a", "B"⟩, ⟨"a", "A"⟩] := by decide
  have named : unordered.named ⟨"b", "A"⟩ = none := by decide
  have past : unordered.past ⟨"b", "A"⟩ = [⟨"b", "B"⟩, ⟨"a", "C"⟩] := by decide
  obtain ⟨s, one, rest, -⟩ := taken 1
  have within : 1 ≤ (unordered.before ⟨"b", "A"⟩).length := by decide
  have items : Increasing ordered.toList := by decide
  have targets : Increasing [ClassName.mk "a" "z", ⟨"a.b", "B"⟩, ⟨"a.b", "C"⟩] := by decide
  obtain ⟨e, each⟩ := (find_sweep_findEach ordered).2 items _ targets
  refine ⟨⟨d, run ▸ swept, named ▸ found, past ▸ left⟩, ⟨s, ?_, rest within⟩, items, targets, e, ?_⟩
  · rw [one, run]
    rfl
  · have answers : ([⟨"a", "z"⟩, ⟨"a.b", "B"⟩, ⟨"a.b", "C"⟩] : List ClassName).map (named? · ordered.toList) =
        [some ⟨"a", "z"⟩, none, some ⟨"a.b", "C"⟩] := by decide
    rw [each, answers]

end Cursor

end SignatureLint
