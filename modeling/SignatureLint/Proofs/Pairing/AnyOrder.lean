import SignatureLint.Proofs.Pairing.Walk

/-!
# A walk over lists in any order

`logWalk` makes a walk one look-up at a time and keeps a log: what it visited, the names of the classes that had a
counterpart, after those that a caller noted before, and three counts. It pulls one known name, looks it up, and only
then pulls the next. The log it ends with is the account of the visits of `walk` (`logWalk_eq`).

The lists need not be in order and may repeat names. A look-up then passes over what it meets too early, but it never
turns back: what it finds and what it leaves is a part of what it was given (`lookUp_sublist`, `sweepTo_sublist`). So
the baseline classes that a walk uses are a sublist of the baseline, and those visited alone have the names of a
sublist of the known names (`bases_listWalk_sublist`, `alone_listWalk_sublist`).
-/

namespace SignatureLint

open Cursor (Misuse)
open scoped List

namespace Visit

/-- The class that is visited alone. -/
def alone? : Visit → Option Class
  | .current _ _ => none
  | .known base => some base

end Visit

/-! ## A walk that keeps a log -/

/-- What is noted of a walk. -/
structure WalkLog where
  visits : List Visit
  /-- The names that were noted before the walk, then those of the current classes that have a counterpart. -/
  classesWithBase : List ClassName
  stats : WalkStats

namespace WalkLog

/-- The log before the first visit. -/
def start (names : List ClassName) : WalkLog :=
  { visits := [], classesWithBase := names, stats := { current := 0, withBase := 0, knownOnly := 0 } }

/-- Notes what the look-up of a known name found. -/
def noteKnown (log : WalkLog) : Option Class → WalkLog
  | none => log
  | some base => { log with visits := log.visits ++ [.known base], stats.knownOnly := log.stats.knownOnly + 1 }

/-- Notes a class of the current dump and what the look-up of its name found. -/
def noteCurrent (log : WalkLog) (own : Class) (counterpart : Option Class) : WalkLog :=
  let log := { log with stats.current := log.stats.current + 1 }
  let log := if counterpart.isSome then
      { log with
        classesWithBase := log.classesWithBase ++ [own.className]
        stats.withBase := log.stats.withBase + 1 }
    else log
  { log with visits := log.visits ++ [.current own counterpart] }

/-- The log past more visits. -/
def past (log : WalkLog) (visits : List Visit) : WalkLog :=
  { visits := log.visits ++ visits
    classesWithBase := log.classesWithBase ++ visits.filterMap Visit.pairedName?
    stats :=
      { current := log.stats.current + visits.countP Visit.isCurrent
        withBase := log.stats.withBase + visits.countP (·.view.base.isSome)
        knownOnly := log.stats.knownOnly + visits.countP (! Visit.isCurrent ·) } }

end WalkLog

/-- Pulls the known names before the target, and looks each up in the baseline before it pulls the next. -/
def logKnown (log : WalkLog) (known : Cursor ClassName) (base : Cursor Class) (target : Option ClassName) :
    Except Misuse (WalkLog × Cursor ClassName × Cursor Class) :=
  match _pulled : known.pull target with
  | .error e => .error e
  | .ok (none, known) => .ok (log, known, base)
  | .ok (some name, known) => do
    let (found, base) ← base.find (some name)
    logKnown (log.noteKnown found) known base target
termination_by known.size
decreasing_by exact Cursor.size_pull _pulled

/-- Walks on from a log. -/
def logWalk (log : WalkLog) (known : Cursor ClassName) (base : Cursor Class) : List Class → Except Misuse WalkLog
  | [] => (logKnown log known base none).map (·.1)
  | c :: classes => do
    let (log, known, base) ← logKnown log known base (some c.className)
    let (counterpart, base) ← base.find (some c.className)
    logWalk (log.noteCurrent c counterpart) known base classes

namespace WalkLog

variable (log : WalkLog)

theorem past_nil : log.past [] = log := by
  simp [past]

theorem past_append (visits more : List Visit) : log.past (visits ++ more) = (log.past visits).past more := by
  simp [past, Nat.add_assoc]

theorem noteKnown_eq (found : Option Class) : log.noteKnown found = log.past (found.toList.map .known) := by
  cases found with
  | none => exact (past_nil log).symm
  | some b => simp [noteKnown, past, Visit.pairedName?, Visit.isCurrent, Visit.view]

theorem noteCurrent_eq (own : Class) (counterpart : Option Class) :
    log.noteCurrent own counterpart = log.past [.current own counterpart] := by
  cases counterpart with
  | none => simp [noteCurrent, past, Visit.pairedName?, Visit.isCurrent, Visit.view]
  | some b => simp [noteCurrent, past, Visit.pairedName?, Visit.isCurrent, Visit.view]

end WalkLog

namespace Cursor

variable {α : Type} [Named α] {c d : Cursor α} {target : Option ClassName}

theorem sweep_of_pull_eq_none (pulled : c.pull target = .ok (none, d)) : c.sweep target = .ok ([], d) := by
  unfold sweep
  split
  next failed => exact absurd failed (c.pull_ne_error target _)
  next answered =>
    rw [answered] at pulled
    cases pulled
    rfl
  next answered => rw [answered] at pulled; cases pulled

theorem sweep_of_pull_eq_some {item : α} (pulled : c.pull target = .ok (some item, d)) :
    c.sweep target = (d.sweep target).map fun (items, c) => (item :: items, c) := by
  rw [sweep]
  split
  next failed => exact absurd failed (c.pull_ne_error target _)
  next answered => rw [answered] at pulled; cases pulled
  next answered =>
    rw [answered] at pulled
    cases pulled
    rfl

end Cursor

/-- To look each name up before the next is pulled comes to the same as to pull all of them first. -/
theorem logKnown_eq (log : WalkLog) (known : Cursor ClassName) (base : Cursor Class) (target : Option ClassName) :
    logKnown log known base target =
      (visitKnownBefore known base target).map fun (visits, known, base) => (log.past visits, known, base) := by
  fun_induction logKnown log known base target with
  | case1 log known base e failed => exact absurd failed (known.pull_ne_error target e)
  | case2 log known base known' pulled =>
    rw [visitKnownBefore, Cursor.sweep_of_pull_eq_none pulled]
    simp only [visitKnown, Except.map, bind, Except.bind, pure, Except.pure, WalkLog.past_nil]
  | case3 log known base name known' pulled ih =>
    obtain ⟨⟨found, base'⟩, ok⟩ := base.find_isOk (some name)
    obtain ⟨⟨names, known''⟩, swept⟩ := known'.sweep_isOk target
    obtain ⟨⟨visits, base''⟩, visited⟩ := visitKnown_isOk names base'
    have later := ih found base'
    rw [WalkLog.noteKnown_eq, visitKnownBefore] at later
    rw [visitKnownBefore, Cursor.sweep_of_pull_eq_some pulled]
    simp only [ok, later, swept, visitKnown, visited, Except.map, bind, Except.bind, pure, Except.pure,
      WalkLog.noteKnown_eq, WalkLog.past_append]

/-- **The log is the account of the visits.** -/
theorem logWalk_eq (log : WalkLog) (known : Cursor ClassName) (base : Cursor Class) (classes : List Class) :
    logWalk log known base classes = (walk known base classes).map log.past := by
  induction classes generalizing log known base with
  | nil =>
    obtain ⟨answer, ok⟩ := visitKnownBefore_isOk known base none
    simp only [logWalk, walk, logKnown_eq, ok, Except.map]
  | cons c classes ih =>
    obtain ⟨⟨before, known', base'⟩, ok⟩ := visitKnownBefore_isOk known base (some c.className)
    obtain ⟨⟨counterpart, base''⟩, found⟩ := base'.find_isOk (some c.className)
    obtain ⟨after, walked⟩ := walk_isOk known' base'' classes
    simp only [logWalk, walk, logKnown_eq, ok, found, ih, walked, Except.map, bind, Except.bind, pure, Except.pure,
      WalkLog.noteCurrent_eq, ← WalkLog.past_append, List.append_assoc, List.singleton_append]

/-- A class is paired if its view has a counterpart. -/
theorem pairedName?_isSome (v : Visit) : v.pairedName?.isSome = v.view.base.isSome := by
  cases v with
  | current own counterpart => cases counterpart <;> rfl
  | known b => rfl

theorem Walk.stats_eq (w : Walk) :
    w.stats =
      { current := w.visits.countP Visit.isCurrent
        withBase := w.visits.countP (·.view.base.isSome)
        knownOnly := w.visits.countP (! Visit.isCurrent ·) } := by
  simp only [Walk.stats, Walk.classesWithBase, List.length_filterMap_eq_countP, pairedName?_isSome]

/-! ## Names and counterparts -/

variable {known : List ClassName} {base current : List Class}

/-- The classes visited have names that stand in this order among the names. -/
theorem alone_listKnown_sublist (names : List ClassName) (base : List Class) :
    ((listKnown names base).1.filterMap Visit.alone?).map Class.className <+ names := by
  induction names generalizing base with
  | nil => exact List.Sublist.refl _
  | cons name names ih =>
    rw [listKnown, List.filterMap_append, List.map_append]
    cases found : (lookUp name base).1 with
    | none => exact (ih _).cons name
    | some b =>
      have same : b.className = name := className_of_lookUp found
      subst same
      exact (ih _).cons_cons _

/-- A counterpart has the name of its class. -/
theorem className_of_paired {own b : Class} (paired : Visit.current own (some b) ∈ listWalk known base current) :
    b.className = own.className := by
  have notKnown {names : List ClassName} {base : List Class} :
      Visit.current own (some b) ∉ (listKnown names base).1 := fun mem =>
    List.filter_eq_nil_iff.mp filter_isCurrent_listKnown _ mem rfl
  induction current generalizing known base with
  | nil => exact absurd paired notKnown
  | cons c current ih =>
    rw [listWalk] at paired
    rcases List.mem_append.mp paired with before | here
    · exact absurd before notKnown
    · rcases List.mem_cons.mp here with itself | later
      · injection itself with same found
        rw [same]
        exact className_of_lookUp found.symm
      · exact ih later

/-- The classes that a walk visits alone have names that stand in this order among the known names. -/
theorem alone_listWalk_sublist (known : List ClassName) (base current : List Class) :
    ((listWalk known base current).filterMap Visit.alone?).map Class.className <+ known := by
  induction current generalizing known base with
  | nil => exact alone_listKnown_sublist known base
  | cons c current ih =>
    rw [listWalk, List.filterMap_append, List.filterMap_cons, List.map_append]
    exact ((alone_listKnown_sublist _ _).append (ih _ _)).trans (sweepTo_sublist c.className known)

/-- **A walk over lists in any order**, with names repeated or not, is always made, and its log accounts for it. Each
current class is visited once, in order, and has a counterpart of its own package and full name or none. The baseline
classes used, as counterparts or alone, stand at increasing places of the baseline, so none is used twice; those
visited alone are named at increasing places of the known names. To the names noted before are added those of the
paired classes, and the counts are the numbers of visits. -/
theorem logWalk_any_order (noted : List ClassName) (current : List Class) (base : Option (List Class))
    (known : List ClassName) :
    let baseline := base.getD []
    let w := Walk.of current base known
    let used := w.visits.filterMap Visit.base?
    let alone := w.visits.filterMap Visit.alone?
    ∃ log, logWalk (.start noted) (.ofList known) (.ofList baseline) current = .ok log ∧
      log.visits = w.visits ∧
      (w.visits.filter Visit.isCurrent).map (·.view.own) = current ∧
      (∀ own b, Visit.current own (some b) ∈ w.visits → b.package = own.package ∧ b.fullname = own.fullname) ∧
      (∃ places : List (Fin baseline.length), places.Pairwise (· < ·) ∧ used = places.map (baseline[·])) ∧
      (∃ places : List (Fin known.length), places.Pairwise (· < ·) ∧
        alone.map (fun b => (b.package, b.fullname)) = places.map fun i => (known[i].package, known[i].fullname)) ∧
      log.classesWithBase = noted ++ w.classesWithBase ∧
      log.stats = w.stats ∧
      w.stats =
        { current := w.visits.countP Visit.isCurrent
          withBase := w.visits.countP (·.view.base.isSome)
          knownOnly := w.visits.countP (! Visit.isCurrent ·) } := by
  intro baseline w used alone
  have visited : w.visits = listWalk known baseline current := Walk.visits_eq_listWalk current base known
  have counts := w.stats_eq
  refine ⟨(WalkLog.start noted).past w.visits, ?_, ?_, ?_, ?_, ?_, ?_, rfl, ?_, counts⟩
  · rw [logWalk_eq]
    have made : walk (.ofList known) (.ofList baseline) current = .ok w.visits := Walk.visits_of current base known
    rw [made]
    rfl
  · exact List.nil_append _
  · rw [visited]
    exact current_listWalk known baseline current
  · intro own b paired
    rw [visited] at paired
    exact ClassName.eq_iff.mp (className_of_paired paired)
  · have sublist : used <+ baseline := by
      simp only [used, visited]
      exact bases_listWalk_sublist known baseline current
    obtain ⟨places, same, increasing⟩ := List.sublist_eq_map_getElem sublist
    exact ⟨places, increasing, same⟩
  · have sublist : alone.map Class.className <+ known := by
      simp only [alone, visited]
      exact alone_listWalk_sublist known baseline current
    obtain ⟨places, same, increasing⟩ := List.sublist_eq_map_getElem sublist
    refine ⟨places, increasing, ?_⟩
    have both := congrArg (List.map fun name : ClassName => (name.package, name.fullname)) same
    rw [List.map_map, List.map_map] at both
    exact both
  · rw [counts]
    simp [WalkLog.past, WalkLog.start]

end SignatureLint
