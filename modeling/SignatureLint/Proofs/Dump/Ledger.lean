import SignatureLint.Proofs.Dump.FromLines

/-!
# Ledgers

A `Ledger` is what an account of the lines is kept of: the scope, the line numbers that problems were
reported under, and the classes that were handed out. `Ledger.Step` is what one line does to it.

What is invariant is the list of all line numbers on the books, those of the diagnostics and those of the
classes that were handed out or are open: a line adds its own number to it or nothing
(`Ledger.Step.booked_cases`), for a class that is dropped only moves from the one part to the other.
-/

namespace SignatureLint

/-- What an account is kept of: the scope, the line numbers that problems were reported under, and the
classes that were handed out. -/
structure Ledger where
  scope : Scope
  reported : List Nat
  handed : List Class

namespace Ledger

/-- The classes that were handed out, and the one that is open. -/
def held (l : Ledger) : List Class := l.handed ++ l.scope.current?.toList

/-- All line numbers on the books: those of the diagnostics and those of the classes. -/
def booked (l : Ledger) : List Nat := l.reported ++ l.held.map Class.headerLine

/-- One line leads from one ledger to another. -/
inductive Step (line : Line) : Ledger → Ledger → Prop where
  | mk {scope scope' : Scope} {reported fresh : List Nat} {handed : List Class} {ended : Option Class} :
    Effect line scope scope' fresh ended →
      Step line ⟨scope, reported, handed⟩ ⟨scope', reported ++ fresh, handed ++ ended.toList⟩

theorem mem_held_none {scope : Scope} {reported : List Nat} {handed : List Class} {c : Class}
    (mem : c ∈ held ⟨scope, reported, handed ++ (none : Option Class).toList⟩) :
    c ∈ handed ++ scope.current?.toList := by
  rwa [held, Option.toList_none, List.append_nil] at mem

variable {line : Line} {l l' : Ledger}

/-- What becomes of the classes: they stay, the open one is dropped, a class without members is opened in
its place, or the open one gets a member. -/
theorem Step.held_cases (step : Step line l l') :
    l'.held = l.held ∨ (line.HeaderShaped ∧ l'.held = l.handed) ∨
      (∃ c, line.HeaderShaped ∧ c.origin = line.origin ∧ c.methods = [] ∧ c.fields = [] ∧ l'.held = l.handed ++ [c]) ∨
      ∃ c c', Adds line c c' ∧ l.held = l.handed ++ [c] ∧ l'.held = l.handed ++ [c'] := by
  obtain ⟨effect⟩ := step
  cases effect with
  | pass => exact .inl (by simp only [held, Option.toList, List.append_nil])
  | opened header origin methods fields =>
    refine .inr (.inr (.inl ⟨_, header, origin, methods, fields, ?_⟩))
    simp only [held, Option.toList, List.append_nil, Scope.current?]
  | failed header =>
    refine .inr (.inl ⟨header, ?_⟩)
    simp only [held, Option.toList, List.append_nil, Scope.current?]
  | added adds =>
    refine .inr (.inr (.inr ⟨_, _, adds, rfl, ?_⟩))
    simp only [held, Option.toList, List.append_nil, Scope.current?]
  | unread => exact .inl (by simp only [held, Option.toList, List.append_nil])
  | stray => exact .inl (by simp only [held, Option.toList, List.append_nil])
  | skipped => exact .inl (by simp only [held, Option.toList, List.append_nil])
  | ended => exact .inl (by simp only [held, Scope.current?, Option.toList_none, List.append_nil])

theorem count_booked (l : Ledger) (n : Nat) :
    l.booked.count n = l.reported.count n + (l.handed.map Class.headerLine).count n +
      (l.scope.current?.toList.map Class.headerLine).count n := by
  rw [booked, held, List.map_append, List.count_append, List.count_append, Nat.add_assoc]

/-- **A line books its own number or nothing**; a header books it. -/
theorem Step.booked_cases (step : Step line l l') :
    l'.booked.Perm (l.booked ++ [line.number]) ∨ (l'.booked.Perm l.booked ∧ ¬ line.HeaderShaped) := by
  obtain ⟨effect⟩ := step
  cases effect with
  | pass plain own =>
    rcases own with rfl | rfl
    · refine .inr ⟨?_, plain.noHeader⟩
      simp only [List.append_nil, Option.toList_none]
      exact .refl _
    · refine .inl (List.perm_iff_count.mpr ?_)
      intro n
      simp only [List.count_append, count_booked, Option.toList_none, List.append_nil]
      omega
  | opened header origin =>
    refine .inl (List.perm_iff_count.mpr ?_)
    intro n
    have own : Class.headerLine _ = line.number := congrArg Origin.line origin
    simp only [List.count_append, count_booked, Option.toList_none, List.append_nil, Scope.current?,
      Option.toList_some, List.map_cons, List.map_nil, own]
    omega
  | failed header =>
    refine .inl (List.perm_iff_count.mpr ?_)
    intro n
    simp only [List.count_append, count_booked, Option.toList_none, List.append_nil, Scope.current?, List.map_nil,
      List.count_nil]
    omega
  | added adds =>
    refine .inr ⟨List.perm_iff_count.mpr ?_, fun header => header.not_memberShaped adds.memberShaped⟩
    intro n
    simp only [count_booked, Option.toList_none, List.append_nil, Scope.current?, Option.toList_some, List.map_cons,
      List.map_nil, Class.headerLine, adds.origin_eq]
  | unread =>
    refine .inl (List.perm_iff_count.mpr ?_)
    intro n
    simp only [List.count_append, count_booked, Option.toList_none, List.append_nil]
    omega
  | stray =>
    refine .inl (List.perm_iff_count.mpr ?_)
    intro n
    simp only [List.count_append, count_booked, Option.toList_none, List.append_nil]
    omega
  | skipped member =>
    refine .inr ⟨?_, fun header => header.not_memberShaped member⟩
    simp only [List.append_nil, Option.toList_none]
    exact .refl _
  | ended _ noHeader =>
    refine .inr ⟨List.perm_iff_count.mpr ?_, noHeader⟩
    intro n
    simp only [count_booked, List.append_nil, Scope.current?, Option.toList_none, List.map_nil, List.count_nil,
      List.map_append, List.count_append]
    omega

/-- Reports are under the number of the line, or of the class that it drops. -/
theorem Step.reported_cases (step : Step line l l') :
    ∃ fresh, l'.reported = l.reported ++ fresh ∧ ∀ n ∈ fresh, n = line.number ∨ ∃ c ∈ l.held, n = c.headerLine := by
  obtain ⟨effect⟩ := step
  refine ⟨_, rfl, ?_⟩
  intro n mem
  have dropped {scope : Scope} {handed : List Class} (mem : n ∈ scope.current?.toList.map Class.headerLine) :
      ∃ c ∈ handed ++ scope.current?.toList, n = c.headerLine := by
    obtain ⟨c, memC, same⟩ := List.mem_map.mp mem
    exact ⟨c, List.mem_append_right _ memC, same.symm⟩
  cases effect with
  | pass plain own =>
    rcases own with rfl | rfl
    · cases mem
    · exact .inl (List.mem_singleton.mp mem)
  | opened => exact .inr (dropped mem)
  | failed =>
    rcases List.mem_append.mp mem with mem | mem
    · exact .inr (dropped mem)
    · exact .inl (List.mem_singleton.mp mem)
  | added => cases mem
  | unread => exact .inl (List.mem_singleton.mp mem)
  | stray => exact .inl (List.mem_singleton.mp mem)
  | skipped => cases mem
  | ended => cases mem

end Ledger

end SignatureLint
