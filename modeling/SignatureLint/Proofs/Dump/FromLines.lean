import Mathlib.Data.List.Induction
import Mathlib.Data.List.Nodup
import SignatureLint.Proofs.Dump.Step

/-!
# Classes and the lines they are declared on

The lines of a dump are numbered from 1 on, and an origin holds the number of its line. A class is
`FromLines` if it and its members are declared on lines of the right shapes, in their order. A line that
adds a member to the open class keeps that, since it comes after all lines before (`Adds.fromLines`).
-/

namespace SignatureLint

/-! ## Numbered lines -/

/-- The lines of a dump with their numbers. -/
def numbered (texts : List String) : List Line := texts.mapIdx fun i text => Line.ofText (i + 1) text

/-- The lines are numbered from 1 on. -/
def InSequence (lines : List Line) : Prop := lines.map Line.number = List.range' 1 lines.length

theorem numbered_snoc (texts : List String) (text : String) :
    numbered (texts ++ [text]) = numbered texts ++ [Line.ofText (texts.length + 1) text] := by
  rw [numbered, numbered, List.mapIdx_concat]

theorem take_numbered (texts : List String) (n : Nat) : (numbered texts).take n = numbered (texts.take n) := by
  refine List.ext_getElem (by simp [numbered]) fun i inside inside' => ?_
  simp only [numbered, List.getElem_take, List.getElem_mapIdx]

theorem length_numbered (texts : List String) : (numbered texts).length = texts.length := List.length_mapIdx

theorem inSequence_numbered (texts : List String) : InSequence (numbered texts) := by
  induction texts using List.reverseRecOn with
  | nil => rfl
  | append_singleton texts text ih =>
    rw [InSequence, numbered_snoc, List.map_append, ih, List.length_append, List.length_singleton, List.range'_concat,
      List.map_singleton, Line.number_ofText, length_numbered, Nat.one_mul, Nat.add_comm]

namespace InSequence

variable {lines : List Line} {a b : Line}

theorem number_le (sequence : InSequence lines) (mem : a ∈ lines) : 0 < a.number ∧ a.number ≤ lines.length := by
  have listed : a.number ∈ List.range' 1 lines.length := sequence ▸ List.mem_map_of_mem mem
  rw [List.mem_range'_1] at listed
  omega

theorem eq_of_number (sequence : InSequence lines) (ha : a ∈ lines) (hb : b ∈ lines) (same : a.number = b.number) :
    a = b := by
  have once : (lines.map Line.number).Nodup := sequence ▸ List.nodup_range'
  exact List.inj_on_of_nodup_map once ha hb same

end InSequence

/-! ## Classes -/

namespace Class

/-- The numbers of the lines that its members are declared on. -/
def memberLines (c : Class) : List Nat := c.methods.map (·.origin.line) ++ c.fields.map (·.origin.line)

/-- The class and its members are declared on these lines, the members after the class, and the methods
and the fields in the order of their lines. -/
structure FromLines (lines : List Line) (c : Class) : Prop where
  header : ∃ line ∈ lines, line.HeaderShaped ∧ c.origin = line.origin
  methods : ∀ m ∈ c.methods, ∃ line ∈ lines, line.MethodShaped ∧ m.origin = line.origin ∧ c.headerLine < line.number
  fields : ∀ d ∈ c.fields, ∃ line ∈ lines, line.FieldShaped ∧ d.origin = line.origin ∧ c.headerLine < line.number
  methodsInOrder : c.methods.Pairwise fun a b => a.origin.line < b.origin.line
  fieldsInOrder : c.fields.Pairwise fun a b => a.origin.line < b.origin.line

namespace FromLines

variable {lines more : List Line} {line : Line} {c c' : Class}

theorem mono (made : c.FromLines lines) (subset : lines ⊆ more) : c.FromLines more where
  header := made.header.imp fun _ ⟨mem, rest⟩ => ⟨subset mem, rest⟩
  methods m mem := (made.methods m mem).imp fun _ ⟨mem, rest⟩ => ⟨subset mem, rest⟩
  fields d mem := (made.fields d mem).imp fun _ ⟨mem, rest⟩ => ⟨subset mem, rest⟩
  methodsInOrder := made.methodsInOrder
  fieldsInOrder := made.fieldsInOrder

theorem bare (mem : line ∈ lines) (header : line.HeaderShaped) (origin : c.origin = line.origin)
    (methods : c.methods = []) (fields : c.fields = []) : c.FromLines lines where
  header := ⟨line, mem, header, origin⟩
  methods m mem := by
    rw [methods] at mem
    cases mem
  fields d mem := by
    rw [fields] at mem
    cases mem
  methodsInOrder := methods ▸ .nil
  fieldsInOrder := fields ▸ .nil

theorem headerLine_mem (made : c.FromLines lines) :
    ∃ line ∈ lines, line.HeaderShaped ∧ c.headerLine = line.number := by
  obtain ⟨line, mem, header, origin⟩ := made.header
  exact ⟨line, mem, header, congrArg Origin.line origin⟩

theorem memberLines_mem (made : c.FromLines lines) {n : Nat} (mem : n ∈ c.memberLines) :
    ∃ line ∈ lines, line.number = n := by
  rcases List.mem_append.mp mem with method | field
  · obtain ⟨m, memM, rfl⟩ := List.mem_map.mp method
    obtain ⟨line, memLine, -, origin, -⟩ := made.methods m memM
    exact ⟨line, memLine, (congrArg Origin.line origin).symm⟩
  · obtain ⟨d, memD, rfl⟩ := List.mem_map.mp field
    obtain ⟨line, memLine, -, origin, -⟩ := made.fields d memD
    exact ⟨line, memLine, (congrArg Origin.line origin).symm⟩

end FromLines

end Class

namespace Adds

variable {lines : List Line} {line : Line} {c c' : Class}

theorem memberShaped (adds : Adds line c c') : line.MemberShaped := by
  cases adds with
  | method shaped => exact Line.memberShaped_iff.mpr (.inl shaped)
  | field shaped => exact Line.memberShaped_iff.mpr (.inr shaped)

theorem origin_eq (adds : Adds line c c') : c'.origin = c.origin := by
  cases adds with
  | method => rfl
  | field => rfl

theorem count_memberLines (adds : Adds line c c') (n : Nat) :
    c'.memberLines.count n = c.memberLines.count n + [line.number].count n := by
  cases adds with
  | @method m shaped origin =>
    have number : m.origin.line = line.number := congrArg Origin.line origin
    simp only [Class.memberLines, List.map_append, List.map_cons, List.map_nil, List.count_append, number]
    omega
  | @field d shaped origin =>
    have number : d.origin.line = line.number := congrArg Origin.line origin
    simp only [Class.memberLines, List.map_append, List.map_cons, List.map_nil, List.count_append, number]
    omega

/-- Declarations in the order of their lines stay so with one more on a later line. -/
theorem inOrder_snoc {α : Type} {originOf : α → Origin} {items : List α} {x : α}
    (inOrder : items.Pairwise fun a b => (originOf a).line < (originOf b).line)
    (declared : ∀ a ∈ items, ∃ place ∈ lines, originOf a = place.origin) (origin : originOf x = line.origin)
    (later : ∀ a ∈ lines, a.number < line.number) :
    (items ++ [x]).Pairwise fun a b => (originOf a).line < (originOf b).line := by
  refine List.pairwise_append.mpr ⟨inOrder, List.pairwise_singleton _ _, ?_⟩
  intro a memA b memB
  obtain ⟨place, memPlace, origin'⟩ := declared a memA
  rw [List.mem_singleton.mp memB, origin, origin']
  exact later place memPlace

/-- A member on a new line stands after all others. -/
theorem fromLines (adds : Adds line c c') (made : c.FromLines lines) (later : ∀ a ∈ lines, a.number < line.number) :
    c'.FromLines (lines ++ [line]) := by
  have old := made.mono (List.subset_append_left lines [line])
  have mem : line ∈ lines ++ [line] := List.mem_concat_self
  have after : c.headerLine < line.number := by
    obtain ⟨a, memA, -, same⟩ := made.headerLine_mem
    exact same ▸ later a memA
  cases adds with
  | @method m shaped origin =>
    refine ⟨old.header, ?_, old.fields, ?_, old.fieldsInOrder⟩
    · intro m' mem'
      rcases List.mem_append.mp mem' with before | last
      · exact old.methods m' before
      · rw [List.mem_singleton.mp last]
        exact ⟨line, mem, shaped, origin, after⟩
    · apply inOrder_snoc made.methodsInOrder ?_ origin later
      intro a memA
      obtain ⟨place, memPlace, -, origin', -⟩ := made.methods a memA
      exact ⟨place, memPlace, origin'⟩
  | @field d shaped origin =>
    refine ⟨old.header, old.methods, ?_, old.methodsInOrder, ?_⟩
    · intro d' mem'
      rcases List.mem_append.mp mem' with before | last
      · exact old.fields d' before
      · rw [List.mem_singleton.mp last]
        exact ⟨line, mem, shaped, origin, after⟩
    · apply inOrder_snoc made.fieldsInOrder ?_ origin later
      intro a memA
      obtain ⟨place, memPlace, -, origin', -⟩ := made.fields a memA
      exact ⟨place, memPlace, origin'⟩

end Adds

end SignatureLint
