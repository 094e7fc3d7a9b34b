import Mathlib.Data.List.Basic
import SignatureLint.Proofs.Pairing.Walk

/-!
# A walk over lists in order

Where the current classes, the baseline and the known names are in order, a walk is the merge of two
lists: the current classes, each with the baseline class of its name, and the baseline classes of the
known names that no current class has. Nothing is visited twice and nothing is left out.

The induction is on the current classes. What it rests on is `Increasing.listWalk_cons`: past a current
class `c`, what is left of the known names and of the baseline is what comes after `c`, however far the
two cursors had been moved before. So no look-up takes what a later one would have found.
-/

namespace SignatureLint

instance : Named Visit := ⟨fun v => v.view.own.className⟩

/-- The visits to the baseline classes of the names. -/
def knownVisits (base : List Class) (names : List ClassName) : List Visit :=
  (names.filterMap fun name => named? name base).map .known

/-- The names that no current class has. -/
def absentFrom (current : List Class) (names : List ClassName) : List ClassName :=
  names.filter fun name => name ∉ current.map Class.className

section

variable {current base : List Class} {known names : List ClassName}

theorem mem_knownVisits {v : Visit} :
    v ∈ knownVisits base names ↔ ∃ name ∈ names, ∃ b, named? name base = some b ∧ v = .known b := by
  simp only [knownVisits, List.mem_map, List.mem_filterMap]
  constructor
  · rintro ⟨b, ⟨name, mem, found⟩, rfl⟩
    exact ⟨name, mem, b, found, rfl⟩
  · rintro ⟨name, mem, b, found, rfl⟩
    exact ⟨b, ⟨name, mem, found⟩, rfl⟩

theorem knownVisits_append (more : List ClassName) :
    knownVisits base (names ++ more) = knownVisits base names ++ knownVisits base more := by
  rw [knownVisits, List.filterMap_append, List.map_append]
  rfl

/-- Visits alone take no notice of baseline classes with other names. -/
theorem knownVisits_filter {keep : Class → Bool} (kept : ∀ b ∈ base, b.className ∈ names → keep b = true) :
    knownVisits (base.filter keep) names = knownVisits base names := by
  rw [knownVisits, knownVisits]
  congr 1
  apply List.filterMap_congr
  intro name mem
  apply named?_filter
  intro b hb same
  apply kept b hb
  rw [show b.className = name from same]
  exact mem

theorem filter_isCurrent_knownVisits : (knownVisits base names).filter Visit.isCurrent = [] := by
  apply List.filter_eq_nil_iff.mpr
  intro v mem
  obtain ⟨_, _, b, _, rfl⟩ := mem_knownVisits.mp mem
  exact Bool.false_ne_true

theorem filter_not_isCurrent_knownVisits :
    (knownVisits base names).filter (! Visit.isCurrent ·) = knownVisits base names := by
  apply List.filter_eq_self.mpr
  intro v mem
  obtain ⟨_, _, b, _, rfl⟩ := mem_knownVisits.mp mem
  rfl

theorem increasing_knownVisits (increasing : Increasing names) : Increasing (knownVisits base names) := by
  induction names with
  | nil => exact .nil
  | cons name names ih =>
    obtain ⟨above, rest⟩ := increasing_cons.mp increasing
    rw [knownVisits, List.filterMap_cons]
    split
    · exact ih rest
    next b found =>
      rw [List.map_cons]
      refine increasing_cons.mpr ⟨?_, ih rest⟩
      intro v mem
      obtain ⟨name', mem', b', found', rfl⟩ := mem_knownVisits.mp mem
      have same : b.className = name := (named?_eq_some found).2
      have same' : b'.className = name' := (named?_eq_some found').2
      show b.className.Before b'.className
      rw [same, same']
      exact above name' mem'

/-! ## One class of the walk -/

theorem Increasing.listKnown_eq (hb : Increasing base) (hn : Increasing names) :
    listKnown names base =
      (knownVisits base names, base.filter fun b => names.all fun name => name.Before b.className) := by
  induction names generalizing base with
  | nil =>
    have all : base.filter (fun b => ([] : List ClassName).all fun name => name.Before b.className) = base :=
      List.filter_eq_self.mpr fun b _ => List.all_nil
    rw [all]
    rfl
  | cons name names ih =>
    obtain ⟨above, rest⟩ := increasing_cons.mp hn
    have later : knownVisits (base.filter fun b => name.Before b.className) names =
        knownVisits base names :=
      knownVisits_filter fun b _ mem => decide_eq_true (above _ mem)
    have found : lookUp name base = (named? name base, base.filter fun b => name.Before b.className) :=
      hb.lookUp_eq name
    rw [listKnown, found]
    dsimp only
    rw [ih (hb.filter _) rest, later, List.filter_filter]
    refine Prod.ext ?_ ?_
    · rw [knownVisits, knownVisits, List.filterMap_cons]
      cases named? name base <;> rfl
    · apply List.filter_congr
      intro b _
      rw [List.all_cons, Bool.and_comm]

/-- What was passed over for earlier names comes before the target, so a look-up of it misses nothing. -/
theorem Increasing.lookUp_past (hb : Increasing base) {target : ClassName}
    (early : ∀ name ∈ names, name.Before target) :
    lookUp target (base.filter fun b => names.all fun name => name.Before b.className) =
      (named? target base, base.filter fun b => target.Before b.className) := by
  rw [(hb.filter _).lookUp_eq, named?_filter, List.filter_filter]
  · congr 1
    apply List.filter_congr
    intro b _
    by_cases after : target.Before b.className
    · have all : (names.all fun name => name.Before b.className) = true :=
        List.all_eq_true.mpr fun name mem => decide_eq_true ((early name mem).trans after)
      rw [all, Bool.and_true]
      rfl
    · exact (Bool.and_eq_false_imp.mpr fun h => absurd (of_decide_eq_true h) after).trans (decide_eq_false after).symm
  · intro b _ same
    apply List.all_eq_true.mpr
    intro name mem
    rw [show b.className = target from same]
    exact decide_eq_true (early name mem)

/-- Past a class, what comes after it is left of both lists. -/
theorem Increasing.listWalk_cons (hb : Increasing base) (hk : Increasing known) (c : Class) (classes : List Class) :
    listWalk known base (c :: classes) =
      knownVisits base (known.filter fun name => name.Before c.className) ++
        .current c (named? c.className base) ::
          listWalk (known.filter fun name => c.className.Before name)
            (base.filter fun b => c.className.Before b.className) classes := by
  have swept : sweepTo c.className known = (known.filter fun name => name.Before c.className,
      known.filter fun name => c.className.Before name) := hk.sweepTo_eq c.className
  have early : ∀ name ∈ known.filter (fun name => name.Before c.className), name.Before c.className := by
    intro name mem
    simpa using (List.mem_filter.mp mem).2
  simp only [listWalk, swept, hb.listKnown_eq (hk.filter _), hb.lookUp_past early]

/-! ## The whole walk -/

theorem named?_filter_after {target name : ClassName} (after : target.Before name) :
    named? name (base.filter fun b => target.Before b.className) = named? name base := by
  apply named?_filter
  intro b _ same
  rw [show b.className = name from same]
  exact decide_eq_true after

/-- The current classes are all visited, each with the baseline class of its name. -/
theorem Increasing.filter_isCurrent_listWalk (hc : Increasing current) (hb : Increasing base)
    (hk : Increasing known) :
    (listWalk known base current).filter Visit.isCurrent =
      current.map fun c => .current c (named? c.className base) := by
  induction current generalizing known base with
  | nil =>
    rw [listWalk, hb.listKnown_eq hk]
    exact filter_isCurrent_knownVisits
  | cons c classes ih =>
    obtain ⟨above, rest⟩ := increasing_cons.mp hc
    simp only [className_class] at above
    have same : ∀ c' ∈ classes, Visit.current c' (named? c'.className (base.filter fun b =>
        c.className.Before b.className)) = .current c' (named? c'.className base) := by
      intro c' mem
      rw [named?_filter_after (above c' mem)]
    rw [hb.listWalk_cons hk, List.filter_append, filter_isCurrent_knownVisits, List.nil_append,
      List.filter_cons_of_pos (by rfl), ih rest (hb.filter _) (hk.filter _), List.map_cons, List.map_congr_left same]

/-- The known names that come before a class, and those that come after it, are all but its own. -/
theorem Increasing.absentFrom_cons {c : Class} {classes : List Class} (hc : Increasing (c :: classes))
    (hk : Increasing known) :
    absentFrom (c :: classes) known =
      (known.filter fun name => name.Before c.className) ++
        absentFrom classes (known.filter fun name => c.className.Before name) := by
  obtain ⟨above, -⟩ := increasing_cons.mp hc
  induction known with
  | nil => rfl
  | cons name known ih =>
    obtain ⟨later, rest⟩ := increasing_cons.mp hk
    have ih := ih rest
    simp only [className_class, className_className] at above later
    rw [absentFrom] at ih ⊢
    rcases before_or_eq_or_after name c.className with before | same | after
    · have absent : name ∉ (c :: classes).map Class.className := by
        intro mem
        obtain ⟨c', mem', rfl⟩ := List.mem_map.mp mem
        rcases List.mem_cons.mp mem' with rfl | mem'
        · exact ClassName.not_before_self _ before
        · exact before.asymm (above c' mem')
      rw [List.filter_cons_of_pos (by simpa using absent), List.filter_cons_of_pos (by simpa using before),
        List.filter_cons_of_neg (by simpa using before.asymm), ih]
      rfl
    · have present : name ∈ (c :: classes).map Class.className :=
        List.mem_map.mpr ⟨c, List.mem_cons_self, same.symm⟩
      have stays : ¬ name.Before c.className ∧ ¬ c.className.Before name := by
        rw [show name = c.className from same]
        exact ⟨ClassName.not_before_self _, ClassName.not_before_self _⟩
      have dropped : decide (name ∉ (c :: classes).map Class.className) = false :=
        decide_eq_false fun absent => absent present
      rw [List.filter_cons_of_neg (by exact ne_true_of_eq_false dropped),
        List.filter_cons_of_neg (by simpa using stays.1), List.filter_cons_of_neg (by simpa using stays.2), ih]
    · have allAfter : ∀ other ∈ name :: known, c.className.Before other := by
        intro other mem
        rcases List.mem_cons.mp mem with rfl | mem
        · exact after
        · exact ClassName.Before.trans after (later other mem)
      have noneBefore : (name :: known).filter (fun name => name.Before c.className) = [] :=
        List.filter_eq_nil_iff.mpr fun other mem => by simpa using (allAfter other mem).asymm
      rw [noneBefore, List.filter_eq_self.mpr fun other mem => decide_eq_true (allAfter other mem), List.nil_append,
        absentFrom]
      apply List.filter_congr
      intro other mem
      have differs : other ≠ c.className := (allAfter other mem).ne.symm
      simp [differs]

/-- Of the known names, those that no current class has are looked up in the baseline. -/
theorem Increasing.filter_known_listWalk (hc : Increasing current) (hb : Increasing base) (hk : Increasing known) :
    (listWalk known base current).filter (! Visit.isCurrent ·) =
      knownVisits base (absentFrom current known) := by
  induction current generalizing known base with
  | nil =>
    have all : absentFrom [] known = known := List.filter_eq_self.mpr fun name _ => decide_eq_true List.not_mem_nil
    rw [listWalk, hb.listKnown_eq hk, all]
    exact filter_not_isCurrent_knownVisits
  | cons c classes ih =>
    obtain ⟨-, rest⟩ := increasing_cons.mp hc
    have later : knownVisits (base.filter fun b => c.className.Before b.className)
        (absentFrom classes (known.filter fun name => c.className.Before name)) =
        knownVisits base (absentFrom classes (known.filter fun name => c.className.Before name)) := by
      apply knownVisits_filter
      intro b _ mem
      exact (List.mem_filter.mp (List.mem_filter.mp mem).1).2
    rw [hb.listWalk_cons hk, List.filter_append, filter_not_isCurrent_knownVisits,
      List.filter_cons_of_neg (by simp [Visit.isCurrent]), ih rest (hb.filter _) (hk.filter _), later,
      hc.absentFrom_cons hk, knownVisits_append]

theorem Increasing.mem_listWalk (hc : Increasing current) (hb : Increasing base) (hk : Increasing known) {v : Visit} :
    v ∈ listWalk known base current ↔
      (∃ c ∈ current, v = .current c (named? c.className base)) ∨
      ∃ name ∈ absentFrom current known, ∃ b, named? name base = some b ∧ v = .known b := by
  have currents := hc.filter_isCurrent_listWalk hb hk
  have others := hc.filter_known_listWalk hb hk
  constructor
  · intro mem
    by_cases isCurrent : v.isCurrent = true
    · have kept := List.mem_filter.mpr ⟨mem, isCurrent⟩
      rw [currents] at kept
      obtain ⟨c, listed, rfl⟩ := List.mem_map.mp kept
      exact .inl ⟨c, listed, rfl⟩
    · have kept : v ∈ (listWalk known base current).filter (! Visit.isCurrent ·) :=
        List.mem_filter.mpr ⟨mem, by simpa using isCurrent⟩
      rw [others] at kept
      exact .inr (mem_knownVisits.mp kept)
  · rintro (⟨c, mem, rfl⟩ | alone)
    · have visited :
          Visit.current c (named? c.className base) ∈ (listWalk known base current).filter Visit.isCurrent := by
        rw [currents]
        exact List.mem_map.mpr ⟨c, mem, rfl⟩
      exact (List.mem_filter.mp visited).1
    · have visited : v ∈ (listWalk known base current).filter (! Visit.isCurrent ·) := by
        rw [others]
        exact mem_knownVisits.mpr alone
      exact (List.mem_filter.mp visited).1

/-- A walk over lists in order is in order. -/
theorem increasing_listWalk (hc : Increasing current) (hb : Increasing base) (hk : Increasing known) :
    Increasing (listWalk known base current) := by
  induction current generalizing known base with
  | nil =>
    rw [listWalk, hb.listKnown_eq hk]
    exact increasing_knownVisits hk
  | cons c classes ih =>
    obtain ⟨above, rest⟩ := increasing_cons.mp hc
    have after : ∀ v ∈ listWalk (known.filter fun name => c.className.Before name)
        (base.filter fun b => c.className.Before b.className) classes, c.className.Before (className v) := by
      intro v mem
      rcases (rest.mem_listWalk (hb.filter _) (hk.filter _)).mp mem with ⟨c', mem', rfl⟩ | ⟨_, _, b, found, rfl⟩
      · exact above c' mem'
      · have kept := (List.mem_filter.mp (named?_eq_some found).1).2
        exact of_decide_eq_true kept
    have before : ∀ v ∈ knownVisits base (known.filter fun name => name.Before c.className),
        (className v).Before c.className := by
      intro v mem
      obtain ⟨name, mem', b, found, rfl⟩ := mem_knownVisits.mp mem
      have same : b.className = name := (named?_eq_some found).2
      show b.className.Before c.className
      rw [same]
      exact of_decide_eq_true (List.mem_filter.mp mem').2
    rw [hb.listWalk_cons hk]
    refine List.pairwise_append.mpr ⟨increasing_knownVisits (hk.filter _), ?_, ?_⟩
    · exact increasing_cons.mpr ⟨after, ih rest (hb.filter _) (hk.filter _)⟩
    · intro v mem v' mem'
      rcases List.mem_cons.mp mem' with rfl | mem'
      · exact before v mem
      · exact (before v mem).trans (after v' mem')

/-! ## What a walk answers -/

theorem filterMap_pairedName? (visits : List Visit) :
    visits.filterMap Visit.pairedName? = (visits.filter Visit.isCurrent).filterMap Visit.pairedName? := by
  induction visits with
  | nil => rfl
  | cons v visits ih =>
    cases v with
    | current own counterpart =>
      rw [List.filter_cons_of_pos (by rfl), List.filterMap_cons, List.filterMap_cons, ih]
    | known b =>
      rw [List.filter_cons_of_neg (by simp [Visit.isCurrent]), List.filterMap_cons, ih]
      rfl

/-- The current classes that have a counterpart, by name. -/
theorem filterMap_pairedName?_current (base current : List Class) :
    (current.map fun c => Visit.current c (named? c.className base)).filterMap Visit.pairedName? =
      (current.filter fun c => (named? c.className base).isSome).map Class.className := by
  induction current with
  | nil => rfl
  | cons c current ih =>
    rw [List.map_cons, List.filterMap_cons, ih]
    cases found : named? c.className base with
    | none =>
      rw [List.filter_cons_of_neg (by simp [found])]
      rfl
    | some b =>
      rw [List.filter_cons_of_pos (by simp [found])]
      rfl

theorem Increasing.classesWithBase_eq (hc : Increasing current) (hb : Increasing base) (hk : Increasing known) :
    (listWalk known base current).filterMap Visit.pairedName? =
      (current.filter fun c => (named? c.className base).isSome).map Class.className := by
  rw [filterMap_pairedName?, hc.filter_isCurrent_listWalk hb hk, filterMap_pairedName?_current]

end

/-- **A walk over lists in order is their merge.** It visits each current class with the baseline class of
its package and full name, if there is one, and alone the baseline class of each known name that no
current class has; all in order, so each once. The names of the paired classes and the counts are those
of the lists, and a missing baseline is an empty one. -/
theorem walk_eq_merge {current : List Class} {base : Option (List Class)} {known : List ClassName}
    (hc : Increasing current) (hb : Increasing (base.getD [])) (hk : Increasing known) :
    let baseline := base.getD []
    let paired := current.filter fun c => (named? c.className baseline).isSome
    let alone := (absentFrom current known).filterMap fun name => named? name baseline
    let w := Walk.of current base known
    visits current baseline known = .ok w.visits ∧
      Increasing w.visits ∧
      w.visits.filter Visit.isCurrent = current.map (fun c => .current c (named? c.className baseline)) ∧
      w.visits.filter (! Visit.isCurrent ·) = alone.map .known ∧
      w.classesWithBase = paired.map Class.className ∧
      w.stats = { current := current.length, withBase := paired.length, knownOnly := alone.length } ∧
      Walk.of current none known = Walk.of current (some []) known := by
  intro baseline paired alone w
  have visited : w.visits = listWalk known baseline current := Walk.visits_eq_listWalk current base known
  have names : w.classesWithBase = paired.map Class.className := by
    rw [Walk.classesWithBase, visited]
    exact hc.classesWithBase_eq hb hk
  have currents := hc.filter_isCurrent_listWalk hb hk
  have others := hc.filter_known_listWalk hb hk
  rw [← visited] at currents others
  refine ⟨Walk.visits_of current base known, ?_, currents, others, names, ?_, rfl⟩
  · rw [visited]
    exact increasing_listWalk hc hb hk
  · rw [Walk.stats, names, List.countP_eq_length_filter, List.countP_eq_length_filter, currents, others]
    simp only [knownVisits, List.length_map]
    rfl

/-- A class of the package `p` without members. -/
def bareClass (declared : String) : Class :=
  { modifiers := .ofList ["class"], annotations := [], declared, superclasses := [], interfaces := [], package := "p",
    origin := { line := 1, raw := "class " ++ declared, blame := none }, format := .v2, methods := [], fields := [] }

/-- Of two current classes one is paired, and of three known names one is visited alone. -/
theorem walk_eq_merge_two :
    Increasing [bareClass "A", bareClass "C"] ∧ Increasing [bareClass "B", bareClass "C"] ∧
      Increasing [ClassName.mk "p" "B", ⟨"p", "C"⟩, ⟨"p", "D"⟩] ∧
      let w := Walk.of [bareClass "A", bareClass "C"] (some [bareClass "B", bareClass "C"])
        [⟨"p", "B"⟩, ⟨"p", "C"⟩, ⟨"p", "D"⟩]
      w.visits.filter Visit.isCurrent =
          [.current (bareClass "A") none, .current (bareClass "C") (some (bareClass "C"))] ∧
        w.visits.filter (! Visit.isCurrent ·) = [.known (bareClass "B")] ∧
        w.stats = { current := 2, withBase := 1, knownOnly := 1 } := by
  have hc : Increasing [bareClass "A", bareClass "C"] := by decide +kernel
  have hb : Increasing ((some [bareClass "B", bareClass "C"]).getD []) := by decide +kernel
  have hk : Increasing [ClassName.mk "p" "B", ⟨"p", "C"⟩, ⟨"p", "D"⟩] := by decide +kernel
  obtain ⟨-, -, currents, others, -, counts, -⟩ := walk_eq_merge hc hb hk
  refine ⟨hc, hb, hk, currents.trans ?_, others.trans ?_, counts.trans ?_⟩
  · decide +kernel
  · decide +kernel
  · decide +kernel

end SignatureLint
