import SignatureLint.Proofs.Dump.Counter
import SignatureLint.Proofs.Lint.Diagnostics

/-!
# A check with a counter of 32 bits

A check reads each of its dumps to the end. If none of them has more lines than a counter of 32 bits has numbers, it
reports what it reports without a bound (`check?_eq`). Where a program panics at the end of its numbers, it is also
the other way round: from the report alone it is known that no dump had more (`few_of_check?`).
-/

namespace SignatureLint

/-- The number of lines of a dump. -/
def Dump.lineCount (d : Dump) : Nat := (Text.lines d.text).length

section

variable {o : Overflow} {config : Config} {current : Dump} {base : Option Dump} {known : List ClassName}
  {report : Report}

/-- A dump that was read to its end under exact numbers has no more lines than there are numbers. -/
theorem Dump.few_of_contents? {d : Dump} {contents : Contents} (read : d.contents? o = some contents)
    (exact : o.Exact d.lineCount) : d.lineCount < UInt32.size := by
  refine exact.lt_size ?_
  rintro rfl
  by_contra many
  rw [Dump.contents?_panics_eq_none (Nat.le_of_not_lt many)] at read
  cases read

theorem examine?_eq (o : Overflow) (few : ∀ d ∈ current :: base.toList, d.lineCount < UInt32.size) :
    examine? o config current base known = some (examine config current base known) := by
  have read : current.contents? o = some current.contents := Dump.contents?_eq o (few current List.mem_cons_self)
  rw [examine_eq_report]
  cases base with
  | none =>
    rw [examine?, read]
    rfl
  | some base =>
    have readBase : base.contents? o = some base.contents :=
      Dump.contents?_eq o (few base (List.mem_cons_of_mem _ List.mem_cons_self))
    simp only [examine?, read, Option.mapM_some, readBase, Option.map_some]
    rfl

theorem few_of_examine? (examined : examine? o config current base known = some report)
    (exact : ∀ d ∈ current :: base.toList, o.Exact d.lineCount) :
    ∀ d ∈ current :: base.toList, d.lineCount < UInt32.size := by
  obtain ⟨contents, read, rest⟩ := Option.bind_eq_some_iff.mp examined
  obtain ⟨baseContents, readBase, -⟩ := Option.bind_eq_some_iff.mp rest
  intro d mem
  rcases List.mem_cons.mp mem with rfl | mem
  · exact Dump.few_of_contents? read (exact d List.mem_cons_self)
  · obtain rfl := Option.mem_toList.mp mem
    obtain ⟨c, readBase, -⟩ := Option.map_eq_some_iff.mp readBase
    exact Dump.few_of_contents? readBase (exact d (List.mem_cons_of_mem _ List.mem_cons_self))

end

section

variable {o : Overflow} {config : Config} {dumps : Dumps}

/-- **A check of dumps with fewer lines than numbers reports what it reports without a bound.** -/
theorem check?_eq (o : Overflow) (few : ∀ d ∈ dumps.inOrder, d.lineCount < UInt32.size) :
    check? o config dumps = some (check config dumps) := by
  have here : examine? o config dumps.current dumps.baseCurrent [] =
      some (examine config dumps.current dumps.baseCurrent []) :=
    examine?_eq o fun d mem => few d (List.mem_append_left _ mem)
  rw [check?, here, check]
  cases given : dumps.previous with
  | none => rfl
  | some previous =>
    have both : dumps.inOrder =
        (dumps.current :: dumps.baseCurrent.toList) ++ (previous :: dumps.basePrevious.toList) := by
      rw [Dumps.inOrder, given]
    have earlier (known : List ClassName) : examine? o config previous dumps.basePrevious known =
        some (examine config previous dumps.basePrevious known) :=
      examine?_eq o fun d mem => few d (both ▸ List.mem_append_right _ mem)
    simp only [bind, Option.bind, earlier]
    rfl

/-- What a program reports under exact numbers is the report on dumps with fewer lines than numbers. -/
theorem few_of_check? {report : Report} (checked : check? o config dumps = some report)
    (exact : ∀ d ∈ dumps.inOrder, o.Exact d.lineCount) : ∀ d ∈ dumps.inOrder, d.lineCount < UInt32.size := by
  obtain ⟨new, examined, rest⟩ := Option.bind_eq_some_iff.mp checked
  have here := few_of_examine? examined fun d mem => exact d (List.mem_append_left _ mem)
  cases given : dumps.previous with
  | none =>
    have alone : dumps.inOrder = dumps.current :: dumps.baseCurrent.toList := by
      rw [Dumps.inOrder, given]
      exact List.append_nil _
    rw [alone]
    exact here
  | some previous =>
    have both : dumps.inOrder =
        (dumps.current :: dumps.baseCurrent.toList) ++ (previous :: dumps.basePrevious.toList) := by
      rw [Dumps.inOrder, given]
    rw [given] at rest
    obtain ⟨earlier, examinedEarlier, -⟩ := Option.bind_eq_some_iff.mp rest
    have before := few_of_examine? examinedEarlier fun d mem => exact d (both ▸ List.mem_append_right _ mem)
    rw [both]
    intro d mem
    rcases List.mem_append.mp mem with mem | mem
    · exact here d mem
    · exact before d mem

end

end SignatureLint
