import Mathlib.Data.List.Induction
import SignatureLint.Proofs.Dump.Account

/-!
# No declaration is lost

Every line that has the shape of a class header ends as one class that is handed out or as one diagnostic,
and every line that has the shape of a member as one member of the class that is open there or as one
diagnostic, unless it is passed over after a header that could not be read (`drain_accounts`). The account
of the lines is kept from the first line on (`accounts_after`); at the end of the dump a class that is still
open is reported, which moves its number on the books and changes nothing else.
-/

namespace SignatureLint

/-! ## Runs -/

/-- The reader of a file after these lines. -/
def Reader.after (file : String) (texts : List String) : Reader := ((start file).feedAll texts).1

/-- The ledger of a file after these lines. -/
def Ledger.after (file : String) (texts : List String) : Ledger :=
  { scope := (Reader.after file texts).scope
    reported := (Reader.after file texts).reported
    handed := ((Reader.start file).feedAll texts).2 }

section

variable (file : String) (texts : List String)

theorem Ledger.step_after (text : String) :
    Step (Line.ofText (texts.length + 1) text) (after file texts) (after file (texts ++ [text])) := by
  obtain ⟨fresh, reported, effect⟩ := Reader.feed_effect (Reader.after file texts) text
  have count : (Reader.after file texts).line = texts.length := by
    rw [Reader.after, Reader.line_feedAll]
    exact Nat.zero_add _
  have next : after file (texts ++ [text]) =
      ⟨((Reader.after file texts).feed text).1.scope, (Reader.after file texts).reported ++ fresh,
        (after file texts).handed ++ ((Reader.after file texts).feed text).2.toList⟩ := by
    rw [← reported, after, Reader.after, Reader.feedAll_snoc]
    rfl
  rw [next, ← count]
  exact ⟨effect⟩

theorem accounts_after : Accounts (numbered texts) (Ledger.after file texts) := by
  induction texts using List.reverseRecOn with
  | nil => exact Accounts.start
  | append_singleton texts text ih =>
    rw [numbered_snoc]
    refine ih.snoc ?_ (Ledger.step_after file texts text) (inSequence_numbered texts)
    rw [Line.number_ofText, length_numbered]

/-- Nothing that was reported is taken back. -/
theorem reported_after_subset (more : List String) :
    (Ledger.after file texts).reported ⊆ (Ledger.after file (texts ++ more)).reported := by
  induction more using List.reverseRecOn with
  | nil =>
    rw [List.append_nil]
    exact List.Subset.refl _
  | append_singleton more text ih =>
    obtain ⟨fresh, reported, -⟩ := (Ledger.step_after file (texts ++ more) text).reported_cases
    rw [← List.append_assoc, reported]
    exact List.Subset.trans ih (List.subset_append_left _ _)

/-- The open class stands on one of the lines. -/
theorem headerLine_le_of_after {c : Class} (current : (Reader.after file texts).scope.current? = some c) :
    c.headerLine ≤ texts.length := by
  have held : c ∈ (Ledger.after file texts).held :=
    List.mem_append_right _ (current ▸ List.mem_singleton.mpr rfl)
  have booked : c.headerLine ∈ (Ledger.after file texts).booked :=
    List.mem_append_right _ (List.mem_map_of_mem held)
  exact length_numbered texts ▸ (accounts_after file texts).bounded _ booked

theorem memberAccounted_after :
    ∀ a ∈ numbered texts, a.MemberShaped →
      MemberAccounted (Reader.after file (texts.take (a.number - 1))).scope
        (Reader.after file (texts.take a.number)).scope
        ((Reader.after file (texts.take (a.number - 1))).scope = .skipping) (Ledger.after file texts).held
        (Ledger.after file texts).reported a.number := by
  induction texts using List.reverseRecOn with
  | nil =>
    intro a mem
    cases mem
  | append_singleton texts text ih =>
    intro a mem member
    have accounts := accounts_after file texts
    have sequence := inSequence_numbered texts
    have step := Ledger.step_after file texts text
    have next : (Line.ofText (texts.length + 1) text).number = (numbered texts).length + 1 := by
      rw [Line.number_ofText, length_numbered]
    rw [numbered_snoc] at mem
    rcases List.mem_append.mp mem with old | own
    · have within := (sequence.number_le old).2
      rw [length_numbered] at within
      rw [List.take_append_of_le_length within, List.take_append_of_le_length (by omega)]
      refine (ih a old member).snoc accounts next step sequence old member ?_
      intro c current
      have := headerLine_le_of_after file _ current
      rw [List.length_take] at this
      rw [length_numbered]
      omega
    · rw [List.mem_singleton.mp own] at member ⊢
      rw [Line.number_ofText, Nat.add_sub_cancel, List.take_left' rfl, List.take_of_length_le (by simp)]
      have account := accounts.memberAccounted next step sequence member
      rw [Line.number_ofText] at account
      exact account

/-- Members are passed over where no class is open and the last line that counts is a header that failed. -/
theorem skipping_after_iff {reported : List Nat} (more : (Ledger.after file texts).reported ⊆ reported) :
    (Reader.after file texts).scope = .skipping ↔
      (Reader.after file texts).scope.current? = none ∧ LastHeaderFailed (numbered texts) reported := by
  have accounts := accounts_after file texts
  constructor
  · intro skipping
    exact ⟨by rw [skipping]; rfl, (accounts.skipping skipping).mono more⟩
  · rintro ⟨closed, failed⟩
    cases scope : (Reader.after file texts).scope with
    | outside => exact absurd failed (accounts.not_lastHeaderFailed scope reported)
    | inside c =>
      rw [scope] at closed
      cases closed
    | skipping => rfl

/-! ## The end of the dump -/

/-- The classes that the stream of the lines hands out, read to its end. -/
def drainedClasses : List Class := (Stream.ofLines file texts).drain.1

/-- The line numbers of its diagnostics. -/
def drainedReports : List Nat := (Stream.ofLines file texts).drain.2.diagnostics.map Diagnostic.line

theorem drainedClasses_eq : drainedClasses file texts = (Ledger.after file texts).handed :=
  congrArg Prod.fst (Stream.drain_eq (Reader.start file) texts)

/-- The class that is open at the end is reported. -/
theorem drainedReports_eq :
    drainedReports file texts =
      (Ledger.after file texts).reported ++ (Ledger.after file texts).scope.current?.toList.map Class.headerLine := by
  have finished : (Stream.ofLines file texts).drain.2 = (Reader.after file texts).dropOpen :=
    congrArg Prod.snd (Stream.drain_eq (Reader.start file) texts)
  rw [drainedReports, finished]
  exact Reader.reported_dropOpen

theorem booked_drained :
    (Ledger.after file texts).booked.Perm
      (drainedReports file texts ++ (drainedClasses file texts).map Class.headerLine) := by
  refine List.perm_iff_count.mpr ?_
  intro n
  rw [Ledger.count_booked, drainedReports_eq, drainedClasses_eq, List.count_append, List.count_append]
  omega

/-- What is reported at the end is under the line of a header. -/
theorem count_drainedReports {line : Line} (mem : line ∈ numbered texts) (member : line.MemberShaped) :
    (drainedReports file texts).count line.number = (Ledger.after file texts).reported.count line.number := by
  rw [drainedReports_eq, List.count_append]
  apply Nat.add_eq_left.mpr
  apply List.count_eq_zero.mpr
  intro here
  obtain ⟨c, current, same⟩ := List.mem_map.mp here
  obtain ⟨b, memB, header, number⟩ :=
    ((accounts_after file texts).fromLines c (List.mem_append_right _ current)).headerLine_mem
  rw [(inSequence_numbered texts).eq_of_number mem memB (same.symm.trans number)] at member
  exact header.not_memberShaped member

theorem reported_take_subset (n : Nat) : (Ledger.after file (texts.take n)).reported ⊆ drainedReports file texts := by
  have kept := reported_after_subset file (texts.take n) (texts.drop n)
  rw [List.take_append_drop] at kept
  rw [drainedReports_eq]
  exact List.Subset.trans kept (List.subset_append_left _ _)

end

/-- **No declaration is lost, and none is made twice.** Read to the end, a dump hands out a class or reports
a problem, one of the two and once, for each line with the shape of a header. A line with the shape of a
member is one member of the class that is open there, and that class keeps it if it is handed out; or it is
one diagnostic; or it is passed over, and that is so just where no class is open and the last header before
it was reported, with no end of a class in between. What is handed out is declared on such lines and in
their order, and no two diagnostics share a line. -/
theorem drain_accounts (file : String) (texts : List String) :
    (∀ line ∈ numbered texts, line.HeaderShaped →
      ((drainedClasses file texts).map Class.headerLine).count line.number +
        (drainedReports file texts).count line.number = 1) ∧
    (∀ line ∈ numbered texts, line.MemberShaped →
      MemberAccounted (Reader.after file (texts.take (line.number - 1))).scope
        (Reader.after file (texts.take line.number)).scope
        ((Reader.after file (texts.take (line.number - 1))).scope.current? = none ∧
          LastHeaderFailed (numbered (texts.take (line.number - 1))) (drainedReports file texts))
        (drainedClasses file texts) (drainedReports file texts) line.number) ∧
    (∀ c ∈ drainedClasses file texts, c.FromLines (numbered texts)) ∧
    ((drainedClasses file texts).Pairwise fun c d => c.headerLine < d.headerLine) ∧
    (drainedReports file texts).Nodup := by
  have accounts := accounts_after file texts
  have perm := booked_drained file texts
  refine ⟨?_, ?_, ?_, ?_, ?_⟩
  · intro line mem header
    have once : (Ledger.after file texts).booked.count line.number = 1 :=
      List.count_eq_one_of_mem accounts.once (accounts.headers line mem header)
    rw [perm.count_eq, List.count_append] at once
    omega
  · intro line mem member
    have account := memberAccounted_after file texts line mem member
    rw [← skipping_after_iff file _ (reported_take_subset file texts _)]
    refine ⟨account.sameClass, ?_, ?_⟩
    · rw [count_drainedReports file texts mem member]
      exact account.one
    · intro c memC
      rw [drainedClasses_eq] at memC
      exact account.kept c (List.mem_append_left _ memC)
  · intro c mem
    rw [drainedClasses_eq] at mem
    exact accounts.fromLines c (List.mem_append_left _ mem)
  · rw [drainedClasses_eq]
    exact (List.pairwise_append.mp accounts.inOrder).1
  · exact (List.nodup_append.mp (perm.nodup_iff.mp accounts.once)).1

end SignatureLint
