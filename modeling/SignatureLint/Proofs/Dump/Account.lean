import SignatureLint.Proofs.Dump.Ledger

/-!
# The account of a dump's lines

Each line keeps the account of the lines before it (`Accounts.snoc`): the classes on the ledger are declared
on lines of the right shapes and in their order, no number is booked twice, that of a header is booked for
good, and the scope tells what came after the last header. A line with the shape of a member is accounted
for where it is read (`Accounts.memberAccounted`), and later lines leave that as it is
(`MemberAccounted.snoc`).
-/

namespace SignatureLint

/-! ## Accounts -/

/-- The last of the lines is a header that could not be read, but for lines that neither open nor end a class. -/
def LastHeaderFailed (lines : List Line) (reported : List Nat) : Prop :=
  ∃ header ∈ lines, header.HeaderShaped ∧ header.number ∈ reported ∧
    ∀ line ∈ lines, header.number < line.number → ¬ line.HeaderShaped ∧ ¬ line.EndShaped

theorem LastHeaderFailed.snoc {lines : List Line} {line : Line} {reported reported' : List Nat}
    (failed : LastHeaderFailed lines reported) (more : reported ⊆ reported') (noHeader : ¬ line.HeaderShaped)
    (noEnd : ¬ line.EndShaped) : LastHeaderFailed (lines ++ [line]) reported' := by
  obtain ⟨header, mem, shaped, number, last⟩ := failed
  refine ⟨header, List.mem_append_left _ mem, shaped, more number, ?_⟩
  intro a memA later
  rcases List.mem_append.mp memA with old | own
  · exact last a old later
  · rw [List.mem_singleton.mp own]
    exact ⟨noHeader, noEnd⟩

theorem LastHeaderFailed.mono {lines : List Line} {reported reported' : List Nat}
    (failed : LastHeaderFailed lines reported) (more : reported ⊆ reported') : LastHeaderFailed lines reported' := by
  obtain ⟨header, mem, shaped, number, last⟩ := failed
  exact ⟨header, mem, shaped, more number, last⟩

/-- The account of the lines: the classes on the ledger are declared on them in their order, every header
is booked and nothing is booked twice, and the scope tells what came after the last header. -/
structure Accounts (lines : List Line) (l : Ledger) : Prop where
  fromLines : ∀ c ∈ l.held, c.FromLines lines
  inOrder : l.held.Pairwise fun c d => c.headerLine < d.headerLine
  once : l.booked.Nodup
  bounded : ∀ n ∈ l.booked, n ≤ lines.length
  headers : ∀ line ∈ lines, line.HeaderShaped → line.number ∈ l.booked
  skipping : l.scope = .skipping → LastHeaderFailed lines l.reported
  outside : l.scope = .outside →
    ∀ header ∈ lines, header.HeaderShaped → ∃ line ∈ lines, header.number < line.number ∧ line.EndShaped

namespace Accounts

theorem start : Accounts [] ⟨.outside, [], []⟩ where
  fromLines c mem := by cases mem
  inOrder := .nil
  once := .nil
  bounded n mem := by cases mem
  headers line mem := by cases mem
  skipping is := by cases is
  outside _ header mem := by cases mem

variable {lines : List Line} {line : Line} {l l' : Ledger} (accounts : Accounts lines l)

include accounts

/-- Outside of classes, no header is the last line that counts. -/
theorem not_lastHeaderFailed (scope : l.scope = .outside) (reported : List Nat) :
    ¬ LastHeaderFailed lines reported := by
  rintro ⟨header, mem, shaped, -, last⟩
  obtain ⟨line, memLine, later, ends⟩ := accounts.outside scope header mem shaped
  exact (last line memLine later).2 ends

variable (next : line.number = lines.length + 1) (step : Ledger.Step line l l')

include next step

theorem booked_step :
    l'.booked.Nodup ∧ (∀ n ∈ l'.booked, n ≤ (lines ++ [line]).length) ∧
      ∀ a ∈ lines ++ [line], a.HeaderShaped → a.number ∈ l'.booked := by
  have longer : (lines ++ [line]).length = lines.length + 1 := List.length_append
  rcases step.booked_cases with perm | ⟨perm, noHeader⟩
  · refine ⟨?_, ?_, ?_⟩
    · refine perm.nodup_iff.mpr (List.nodup_append.mpr ⟨accounts.once, List.nodup_singleton _, ?_⟩)
      intro n mem m memM same
      have := accounts.bounded n mem
      have := List.mem_singleton.mp memM
      omega
    · intro n mem
      rcases List.mem_append.mp (perm.mem_iff.mp mem) with old | own
      · have := accounts.bounded n old
        omega
      · have := List.mem_singleton.mp own
        omega
    · intro a mem header
      rw [perm.mem_iff]
      rcases List.mem_append.mp mem with old | own
      · exact List.mem_append_left _ (accounts.headers a old header)
      · rw [List.mem_singleton.mp own]
        exact List.mem_concat_self
  · refine ⟨perm.nodup_iff.mpr accounts.once, ?_, ?_⟩
    · intro n mem
      have := accounts.bounded n (perm.mem_iff.mp mem)
      omega
    · intro a mem header
      rw [perm.mem_iff]
      rcases List.mem_append.mp mem with old | own
      · exact accounts.headers a old header
      · rw [List.mem_singleton.mp own] at header
        exact absurd header noHeader

variable (sequence : InSequence lines)

include sequence

omit accounts step in
theorem number_lt {a : Line} (mem : a ∈ lines) : a.number < line.number := by
  have := (sequence.number_le mem).2
  omega

theorem fromLines_step : ∀ c ∈ l'.held, c.FromLines (lines ++ [line]) := by
  intro c mem
  have old {c : Class} (mem : c ∈ l.held) : c.FromLines (lines ++ [line]) :=
    (accounts.fromLines c mem).mono (List.subset_append_left _ _)
  rcases step.held_cases with
    same | ⟨-, dropped⟩ | ⟨d, header, origin, methods, fields, opened⟩ | ⟨d, d', adds, before, after⟩
  · rw [same] at mem
    exact old mem
  · rw [dropped] at mem
    exact old (List.mem_append_left _ mem)
  · rw [opened] at mem
    rcases List.mem_append.mp mem with handed | new
    · exact old (List.mem_append_left _ handed)
    · rw [List.mem_singleton.mp new]
      exact .bare (List.mem_concat_self) header origin methods fields
  · rw [after] at mem
    rcases List.mem_append.mp mem with handed | new
    · exact old (List.mem_append_left _ handed)
    · rw [List.mem_singleton.mp new]
      have memD : d ∈ l.held := before ▸ List.mem_concat_self
      exact adds.fromLines (accounts.fromLines d memD) fun a memA => number_lt next sequence memA

theorem inOrder_step : l'.held.Pairwise fun c d => c.headerLine < d.headerLine := by
  have handed : l.handed.Pairwise fun c d => c.headerLine < d.headerLine :=
    (List.pairwise_append.mp accounts.inOrder).1
  rcases step.held_cases with
    same | ⟨-, dropped⟩ | ⟨d, header, origin, methods, fields, opened⟩ | ⟨d, d', adds, before, after⟩
  · rw [same]
    exact accounts.inOrder
  · rw [dropped]
    exact handed
  · rw [opened]
    refine List.pairwise_append.mpr ⟨handed, List.pairwise_singleton _ _, ?_⟩
    intro c mem e memE
    rw [List.mem_singleton.mp memE, show d.headerLine = line.number from congrArg Origin.line origin]
    obtain ⟨a, memA, -, number⟩ := (accounts.fromLines c (List.mem_append_left _ mem)).headerLine_mem
    rw [number]
    exact number_lt next sequence memA
  · have inOrder := accounts.inOrder
    rw [before] at inOrder
    rw [after]
    refine List.pairwise_append.mpr ⟨handed, List.pairwise_singleton _ _, ?_⟩
    intro c mem e memE
    rw [List.mem_singleton.mp memE, show d'.headerLine = d.headerLine from congrArg Origin.line adds.origin_eq]
    exact (List.pairwise_append.mp inOrder).2.2 c mem d (List.mem_singleton.mpr rfl)

theorem skipping_step (scope : l'.scope = .skipping) : LastHeaderFailed (lines ++ [line]) l'.reported := by
  obtain ⟨effect⟩ := step
  cases effect with
  | pass plain => exact (accounts.skipping scope).snoc (List.subset_append_left _ _) plain.noHeader plain.noEnd
  | opened => cases scope
  | failed header =>
    have mem : line ∈ lines ++ [line] := List.mem_concat_self
    refine ⟨line, mem, header, by simp, ?_⟩
    intro a memA later
    rcases List.mem_append.mp memA with old | own
    · exact absurd (number_lt next sequence old) (Nat.lt_asymm later)
    · rw [List.mem_singleton.mp own] at later
      exact absurd later (Nat.lt_irrefl _)
  | added => cases scope
  | unread => cases scope
  | stray => cases scope
  | skipped member =>
    have noHeader : ¬ line.HeaderShaped := fun header => header.not_memberShaped member
    exact (accounts.skipping scope).snoc (List.subset_append_left _ _) noHeader member.not_endShaped
  | ended => cases scope

theorem outside_step (scope : l'.scope = .outside) :
    ∀ header ∈ lines ++ [line], header.HeaderShaped →
      ∃ a ∈ lines ++ [line], header.number < a.number ∧ a.EndShaped := by
  obtain ⟨effect⟩ := step
  intro header mem shaped
  -- a line that is no header changes nothing for those before it
  have unless_header (noHeader : ¬ line.HeaderShaped)
      (outside : ∀ header ∈ lines, header.HeaderShaped → ∃ a ∈ lines, header.number < a.number ∧ a.EndShaped) :
      ∃ a ∈ lines ++ [line], header.number < a.number ∧ a.EndShaped := by
    rcases List.mem_append.mp mem with old | own
    · obtain ⟨a, memA, rest⟩ := outside header old shaped
      exact ⟨a, List.mem_append_left _ memA, rest⟩
    · rw [List.mem_singleton.mp own] at shaped
      exact absurd shaped noHeader
  cases effect with
  | pass plain => exact unless_header plain.noHeader (accounts.outside scope)
  | opened => cases scope
  | failed => cases scope
  | added => cases scope
  | unread => cases scope
  | stray member => exact unless_header (fun header => header.not_memberShaped member) (accounts.outside scope)
  | skipped => cases scope
  | ended ends noHeader =>
    refine ⟨line, List.mem_concat_self, ?_, ends⟩
    rcases List.mem_append.mp mem with old | own
    · exact number_lt next sequence old
    · rw [List.mem_singleton.mp own] at shaped
      exact absurd shaped noHeader

/-- **The account is kept by every line.** -/
theorem snoc : Accounts (lines ++ [line]) l' := by
  obtain ⟨once, bounded, headers⟩ := accounts.booked_step next step
  exact ⟨accounts.fromLines_step next step sequence, accounts.inOrder_step next step sequence, once, bounded, headers,
    accounts.skipping_step next step sequence, accounts.outside_step next step sequence⟩

end Accounts

/-! ## Members -/

/-- How many members of the open class are declared on line `n`. -/
def Scope.membersAt (n : Nat) : Scope → Nat
  | .inside c => c.memberLines.count n
  | _ => 0

/-- What became of line `n`, which has the shape of a member. -/
structure MemberAccounted (before after : Scope) (skipped : Prop) (classes : List Class) (reported : List Nat)
    (n : Nat) : Prop where
  /-- The line neither opens nor ends a class. -/
  sameClass : after.current?.map Class.origin = before.current?.map Class.origin
  /-- It is one member of the class that is open, or it is one diagnostic, or it is passed over. -/
  one : (after.membersAt n = 1 ∧ reported.count n = 0 ∧ ¬ skipped) ∨
    (after.membersAt n = 0 ∧ reported.count n = 1 ∧ ¬ skipped) ∨
    (after.membersAt n = 0 ∧ reported.count n = 0 ∧ skipped)
  /-- The class that was open keeps the member, and no other class has it. -/
  kept : ∀ c ∈ classes,
    c.memberLines.count n = if after.current?.map Class.headerLine = some c.headerLine then after.membersAt n else 0

section

variable {lines : List Line} {line a : Line} {l l' : Ledger} (accounts : Accounts lines l)
  (next : line.number = lines.length + 1) (step : Ledger.Step line l l') (sequence : InSequence lines)

include accounts next sequence

theorem Accounts.count_memberLines_eq_zero : ∀ c ∈ l.held, c.memberLines.count line.number = 0 := by
  intro c mem
  apply List.count_eq_zero.mpr
  intro listed
  obtain ⟨b, memB, same⟩ := (accounts.fromLines c mem).memberLines_mem listed
  have := Accounts.number_lt next sequence memB
  omega

omit sequence in
theorem Accounts.count_reported_eq_zero : l.reported.count line.number = 0 := by
  apply List.count_eq_zero.mpr
  intro listed
  have := accounts.bounded _ (List.mem_append_left _ listed)
  omega

include step

/-- A line with the shape of a member is accounted for when it is read. -/
theorem Accounts.memberAccounted (member : line.MemberShaped) :
    MemberAccounted l.scope l'.scope (l.scope = .skipping) l'.held l'.reported line.number := by
  have noHeader : ¬ line.HeaderShaped := fun header => header.not_memberShaped member
  have unlisted := accounts.count_memberLines_eq_zero next sequence
  have unreported := accounts.count_reported_eq_zero next
  have inOrder := accounts.inOrder
  obtain ⟨effect⟩ := step
  cases effect with
  | pass plain => exact absurd member plain.noMember
  | opened header => exact absurd header noHeader
  | failed header => exact absurd header noHeader
  | ended ends => exact absurd ends member.not_endShaped
  | @added c c' adds =>
    have before := unlisted c (List.mem_concat_self)
    have own : c'.memberLines.count line.number = 1 := by
      rw [adds.count_memberLines, before, List.count_singleton_self]
    have sameLine : c'.headerLine = c.headerLine := congrArg Origin.line adds.origin_eq
    refine ⟨congrArg some adds.origin_eq, .inl ⟨own, by rwa [List.append_nil], fun is => by cases is⟩, ?_⟩
    intro d mem
    rcases List.mem_append.mp (Ledger.mem_held_none mem) with handed | current
    · have before : d.headerLine < c.headerLine :=
        (List.pairwise_append.mp inOrder).2.2 d handed c (List.mem_singleton.mpr rfl)
      have other : ¬ some c'.headerLine = some d.headerLine := by
        rw [sameLine]
        intro same
        have := Option.some.inj same
        omega
      rw [unlisted d (List.mem_append_left _ handed)]
      exact (if_neg other).symm
    · rw [List.mem_singleton.mp current]
      exact (if_pos rfl).symm
  | @unread c =>
    have zero : (Scope.inside c).membersAt line.number = 0 :=
      unlisted c (List.mem_concat_self)
    refine ⟨rfl, .inr (.inl ⟨zero, ?_, fun is => by cases is⟩), ?_⟩
    · rw [List.count_append, unreported, List.count_singleton_self]
    · intro d mem
      rw [zero, ite_self]
      exact unlisted d (Ledger.mem_held_none mem)
  | stray =>
    refine ⟨rfl, .inr (.inl ⟨rfl, ?_, fun is => by cases is⟩), ?_⟩
    · rw [List.count_append, unreported, List.count_singleton_self]
    · intro d mem
      rw [show Scope.outside.membersAt line.number = 0 from rfl, ite_self]
      exact unlisted d (Ledger.mem_held_none mem)
  | skipped =>
    refine ⟨rfl, .inr (.inr ⟨rfl, by rwa [List.append_nil], rfl⟩), ?_⟩
    intro d mem
    rw [show Scope.skipping.membersAt line.number = 0 from rfl, ite_self]
    exact unlisted d (Ledger.mem_held_none mem)

/-- What a line became does not change with the lines after it. -/
theorem MemberAccounted.snoc {before after : Scope} {skipped : Prop}
    (account : MemberAccounted before after skipped l.held l.reported a.number) (mem : a ∈ lines)
    (member : a.MemberShaped) (old : ∀ c, after.current? = some c → c.headerLine ≤ lines.length) :
    MemberAccounted before after skipped l'.held l'.reported a.number := by
  have earlier : a.number < line.number := Accounts.number_lt next sequence mem
  have reported : l'.reported.count a.number = l.reported.count a.number := by
    obtain ⟨fresh, split, cases⟩ := step.reported_cases
    rw [split, List.count_append]
    apply Nat.add_eq_left.mpr
    apply List.count_eq_zero.mpr
    intro here
    rcases cases a.number here with own | ⟨c, memC, same⟩
    · omega
    · -- a class that is dropped is reported under the line of its header
      obtain ⟨b, memB, header, number⟩ := (accounts.fromLines c memC).headerLine_mem
      rw [sequence.eq_of_number mem memB (same.trans number)] at member
      exact header.not_memberShaped member
  refine ⟨account.sameClass, reported ▸ account.one, ?_⟩
  intro d mem
  rcases step.held_cases with
    same | ⟨-, dropped⟩ | ⟨e, header, origin, methods, fields, opened⟩ | ⟨e, e', adds, had, has⟩
  · exact account.kept d (same ▸ mem)
  · rw [dropped] at mem
    exact account.kept d (List.mem_append_left _ mem)
  · rw [opened] at mem
    rcases List.mem_append.mp mem with handed | new
    · exact account.kept d (List.mem_append_left _ handed)
    · rw [List.mem_singleton.mp new]
      have number : e.headerLine = line.number := congrArg Origin.line origin
      have other : ¬ after.current?.map Class.headerLine = some e.headerLine := by
        intro same
        obtain ⟨c, current, same⟩ := Option.map_eq_some_iff.mp same
        have := old c current
        omega
      rw [if_neg other, Class.memberLines, methods, fields]
      rfl
  · rw [has] at mem
    rcases List.mem_append.mp mem with handed | new
    · exact account.kept d (List.mem_append_left _ handed)
    · rw [List.mem_singleton.mp new]
      have memE : e ∈ l.held := had ▸ List.mem_concat_self
      have later : [line.number].count a.number = 0 :=
        List.count_eq_zero.mpr fun here => by have := List.mem_singleton.mp here; omega
      rw [adds.count_memberLines, later, Nat.add_zero, account.kept e memE,
        show e'.headerLine = e.headerLine from congrArg Origin.line adds.origin_eq]

end

end SignatureLint
