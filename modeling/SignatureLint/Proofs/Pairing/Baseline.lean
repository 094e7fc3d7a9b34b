import SignatureLint.Pairing.Baseline
import SignatureLint.Proofs.Pairing.Walk

/-!
# Reading on demand comes to the same

What a baseline has still to hand out is the list of the classes that wait and of those that are not yet read
(`Baseline.toList`); what will be known when it has been read to its end is `Baseline.atEnd`. An operation does to
the list what the same operation of a cursor does to its list, and nothing to the end: for one class, a look-up and
a walk that is `next_eq_some`, `find_toList` and `walk_toList`. So a walk that reads on demand visits what a walk
over whole dumps visits, and what it leaves unread is still there to be read (`StreamWalk.of_eq`).
-/

namespace SignatureLint

/-! ## The end of a stream -/

theorem Reader.finish_finish (r : Reader) : r.finish.finish = r.finish := by
  cases scope : r.scope with
  | inside c => simp only [finish, dropOpen, scope]
  | outside => simp only [finish, dropOpen, scope]
  | skipping => simp only [finish, dropOpen, scope]

/-- A stream that has ended hands out nothing more, and its reader stays as it is. -/
theorem Stream.drain_of_ended {s left : Stream} (handed : s.next = (none, left)) : left.drain = ([], left.reader) := by
  fun_induction Stream.next s with
  | case1 reader =>
    cases handed
    rw [drain_eq, Reader.feedAll, Reader.finish_finish]
  | case2 => cases handed
  | case3 _ _ _ _ _ ih => exact ih handed

namespace Baseline

/-- The classes still to come. -/
def toList (b : Baseline) : List Class := b.cursor.toList ++ b.stream.drain.1

/-- What is known when the baseline has been read to its end. -/
def atEnd (b : Baseline) : Reader := b.stream.drain.2

variable {b d : Baseline}

/-! ## One class -/

/-- What is handed out is the first class to come, and reading for it changes nothing at the end. -/
theorem next_eq_some {c : Class} (handed : b.next = (some c, d)) :
    b.toList = c :: d.toList ∧ d.cursor.slot = .yielded ∧ d.atEnd = b.atEnd := by
  unfold next at handed
  split at handed
  next waiting =>
    cases handed
    obtain ⟨items, yielded, -⟩ := Cursor.next_eq_some waiting
    exact ⟨by rw [toList, toList, items, List.cons_append], yielded, rfl⟩
  next empty =>
    obtain ⟨nothing, -⟩ := Cursor.next_eq_none empty
    split at handed
    next read stream drawn =>
      split at handed
      next handed' cursor got =>
        cases handed
        obtain ⟨items, yielded, -⟩ := Cursor.next_eq_some got
        rw [toList_load nothing] at items
        cases read with
        | none => cases items
        | some item =>
          obtain ⟨rfl, rest⟩ := List.cons.inj items
          have drained := Stream.drain_of_next_eq_some drawn
          refine ⟨?_, yielded, ?_⟩
          · rw [toList, toList, nothing, drained, ← rest]
            rfl
          · rw [atEnd, atEnd, drained]

/-- Nothing is handed out only where nothing is to come. -/
theorem next_eq_none (handed : b.next = (none, d)) : b.toList = [] ∧ d.toList = [] ∧ d.atEnd = b.atEnd := by
  unfold next at handed
  split at handed
  · cases handed
  next empty =>
    obtain ⟨nothing, -⟩ := Cursor.next_eq_none empty
    split at handed
    next read stream drawn =>
      split at handed
      next handed' cursor got =>
        cases handed
        obtain ⟨items, left, -⟩ := Cursor.next_eq_none got
        rw [toList_load nothing] at items
        cases read with
        | some item => cases items
        | none =>
          have drained := Stream.drain_of_next_eq_none drawn
          have ended := Stream.drain_of_ended drawn
          refine ⟨?_, ?_, ?_⟩
          · rw [toList, nothing, drained, List.nil_append]
          · rw [toList, left, ended, List.nil_append]
          · rw [atEnd, atEnd, drained, ended]

/-- What was just handed out can be given back, and comes before all others. -/
theorem giveBack_of_yielded (c : Class) (yielded : b.cursor.slot = .yielded) :
    ∃ d, b.giveBack c = .ok d ∧ d.toList = c :: b.toList ∧ d.atEnd = b.atEnd := by
  refine ⟨{ b with cursor := b.cursor.park c }, ?_, ?_, rfl⟩
  · rw [giveBack, Cursor.giveBack_of_yielded c yielded]
    rfl
  · rw [toList, Cursor.toList_park_of_yielded c yielded, List.cons_append, toList]

/-! ## Look-ups and walks -/

theorem find_toList (b : Baseline) (target : ClassName) :
    ∃ d, b.find target = .ok ((lookUp target b.toList).1, d) ∧ d.toList = (lookUp target b.toList).2 ∧
      d.atEnd = b.atEnd := by
  fun_induction find b target with
  | case1 b d handed =>
    obtain ⟨nothing, nothing', atEnd⟩ := next_eq_none handed
    rw [nothing, lookUp]
    exact ⟨d, rfl, nothing', atEnd⟩
  | case2 b c d handed before ih =>
    obtain ⟨classes, -, atEnd⟩ := next_eq_some handed
    obtain ⟨e, found, left, atEnd'⟩ := ih
    rw [classes, lookUp_cons_of_before (ClassName.compare_eq_lt_iff.mp before)]
    exact ⟨e, found, left, atEnd'.trans atEnd⟩
  | case3 b c d handed same =>
    obtain ⟨classes, -, atEnd⟩ := next_eq_some handed
    rw [classes, lookUp_cons_of_eq (ClassName.compare_eq_eq_iff.mp same)]
    exact ⟨d, rfl, rfl, atEnd⟩
  | case4 b c d handed after =>
    obtain ⟨classes, yielded, atEnd⟩ := next_eq_some handed
    obtain ⟨e, given, left, atEnd'⟩ := giveBack_of_yielded c yielded
    rw [classes, lookUp_cons_of_after (ClassName.compare_eq_gt_iff.mp after), given]
    exact ⟨e, rfl, left, atEnd'.trans atEnd⟩

theorem visitKnown_toList (names : List ClassName) (b : Baseline) :
    ∃ d, visitKnown names b = .ok ((listKnown names b.toList).1, d) ∧ d.toList = (listKnown names b.toList).2 ∧
      d.atEnd = b.atEnd := by
  induction names generalizing b with
  | nil => exact ⟨b, rfl, rfl, rfl⟩
  | cons name names ih =>
    obtain ⟨d, found, left, atEnd⟩ := b.find_toList name
    obtain ⟨e, visited, left', atEnd'⟩ := ih d
    rw [left] at visited left'
    refine ⟨e, ?_, left', atEnd'.trans atEnd⟩
    simp only [visitKnown, found, visited, bind, Except.bind, pure, Except.pure, listKnown]

/-- A walk visits what is to come of both dumps, leaves the current stream at its end, and changes nothing at the
end of the baseline. -/
theorem walk_toList (known : Cursor ClassName) (b : Baseline) (current : Stream) :
    ∃ left d, walk known b current = .ok (listWalk known.toList b.toList current.drain.1, left, d) ∧
      left.reader = current.drain.2 ∧ d.atEnd = b.atEnd := by
  generalize lines : current.lines.length = n
  induction n using Nat.strongRecOn generalizing known b current with
  | ind n ih =>
    rw [walk]
    split
    next left handed =>
      obtain ⟨known', swept⟩ := known.sweep_none_toList
      obtain ⟨d, visited, -, atEnd⟩ := b.visitKnown_toList known.toList
      have drained := Stream.drain_of_next_eq_none handed
      refine ⟨left, d, ?_, by rw [drained], atEnd⟩
      simp only [visitKnownBefore, swept, visited, bind, Except.bind, pure, Except.pure, drained, listWalk]
    next c left handed =>
      obtain ⟨known', swept, knownLeft⟩ := known.sweep_toList c.className
      obtain ⟨d, visited, baseLeft, atEnd⟩ := b.visitKnown_toList (sweepTo c.className known.toList).1
      obtain ⟨e, found, baseLeft', atEnd'⟩ := d.find_toList c.className
      rw [baseLeft] at found baseLeft'
      obtain ⟨last, f, walked, reader, atEnd''⟩ :=
        ih left.lines.length (lines ▸ Stream.length_next handed) known' e left rfl
      have drained := Stream.drain_of_next_eq_some handed
      refine ⟨last, f, ?_, by rw [reader, drained], atEnd''.trans (atEnd'.trans atEnd)⟩
      simp only [visitKnownBefore, swept, visited, found, walked, knownLeft, baseLeft', bind, Except.bind, pure,
        Except.pure, drained, listWalk]

end Baseline

/-- **A walk that reads on demand is the walk over the whole dumps.** It leaves the current stream at its end, and
the rest of the baseline, however much it is, where it can be read. -/
theorem StreamWalk.of_eq (current base : Stream) (known : List ClassName) :
    let done := StreamWalk.of current base known
    done.walk = Walk.of current.drain.1 (some base.drain.1) known ∧ done.current.reader = current.drain.2 ∧
      done.base.stream.drain.2 = base.drain.2 := by
  obtain ⟨left, d, walked, reader, atEnd⟩ :=
    Baseline.walk_toList (.ofList known) (.ofStream base) current
  have visits : listWalk known base.drain.1 current.drain.1 =
      (Walk.of current.drain.1 (some base.drain.1) known).visits :=
    (Walk.visits_eq_listWalk current.drain.1 (some base.drain.1) known).symm
  have whole : (Baseline.ofStream base).toList = base.drain.1 := rfl
  rw [whole, Cursor.toList_ofList, visits] at walked
  simp only [StreamWalk.of, walked]
  exact ⟨trivial, reader, atEnd⟩

end SignatureLint
