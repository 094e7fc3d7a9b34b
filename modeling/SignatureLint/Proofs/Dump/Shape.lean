import SignatureLint.Dump.Line

/-!
# Shapes of lines

The shapes are told apart by what a line starts with and ends in: `Line.HeaderShaped`, `Line.MethodShaped`,
`Line.FieldShaped` and `Line.EndShaped` say so without the order in which `Line.shape` asks. No line has two
of them but one that ends a class and has the shape of a header: it is a header (`Line.shape_cases`).
-/

namespace SignatureLint

namespace Line

theorem number_ofText (n : Nat) (text : String) : (ofText n text).number = n := by
  unfold ofText
  dsimp only
  split
  · rfl
  · rfl

variable {line : Line}

/-- The line starts with two spaces, but not with four, and ends in a brace. -/
def HeaderShaped (line : Line) : Prop :=
  line.startsWith "  " = true ∧ line.startsWith "    " = false ∧ line.text.getLast? = some '{'

/-- The line starts with one of these. -/
def StartsWithOneOf (starts : List String) (line : Line) : Prop := ∃ start ∈ starts, line.startsWith start = true

/-- Four spaces and the word of a constructor or method. -/
def MethodShaped (line : Line) : Prop := line.StartsWithOneOf methodStarts

/-- Four spaces and the word of a field. -/
def FieldShaped (line : Line) : Prop := line.StartsWithOneOf fieldStarts

/-- One of the five starts of members. -/
def MemberShaped (line : Line) : Prop := line.StartsWithOneOf (methodStarts ++ fieldStarts)

/-- Two spaces and a closing brace. -/
def EndShaped (line : Line) : Prop := line.startsWith "  \x7d" = true

theorem memberShaped_iff : line.MemberShaped ↔ line.MethodShaped ∨ line.FieldShaped := by
  simp only [MemberShaped, MethodShaped, FieldShaped, StartsWithOneOf, List.mem_append, or_and_right, exists_or]

theorem startsWith_iff {start : String} : line.startsWith start = true ↔ start.toList <+: line.text :=
  List.isPrefixOf_iff_prefix

theorem startsWith_of_begins {short long : String} (begins : short.toList <+: long.toList)
    (starts : line.startsWith long = true) : line.startsWith short = true :=
  startsWith_iff.mpr (begins.trans (startsWith_iff.mp starts))

/-- No line has two starts of which neither begins the other. -/
theorem startsWith_eq_false {start other : String} (starts : line.startsWith start = true)
    (apart : ¬ start.toList <+: other.toList ∧ ¬ other.toList <+: start.toList) : line.startsWith other = false := by
  rw [← Bool.not_eq_true]
  intro starts'
  rcases List.prefix_or_prefix_of_prefix (startsWith_iff.mp starts) (startsWith_iff.mp starts') with begins | begins
  · exact apart.1 begins
  · exact apart.2 begins

theorem any_startsWith_iff {starts : List String} : starts.any line.startsWith = true ↔ line.StartsWithOneOf starts :=
  List.any_eq_true

theorem any_startsWith_eq_false {start : String} {others : List String} (starts : line.startsWith start = true)
    (apart : ∀ other ∈ others, ¬ start.toList <+: other.toList ∧ ¬ other.toList <+: start.toList) :
    others.any line.startsWith = false := by
  rw [List.any_eq_false]
  intro other mem
  rw [startsWith_eq_false starts (apart other mem)]
  exact Bool.false_ne_true

theorem HeaderShaped.shape_eq (header : line.HeaderShaped) : line.shape = .header := by
  obtain ⟨two, notFour, brace⟩ := header
  have noPackage : line.startsWith "package" = false := startsWith_eq_false two (by decide)
  simp only [shape, noPackage, two, notFour, brace, Bool.false_eq_true, if_false, Bool.not_false, Bool.and_self,
    decide_true, if_true]

/-- A line that starts four spaces in is no header. -/
theorem not_header_of_four {start : String} (starts : line.startsWith start = true)
    (four : "    ".toList <+: start.toList) :
    (line.startsWith "  " && !line.startsWith "    " && decide (line.text.getLast? = some '{')) = false := by
  rw [startsWith_of_begins four starts, Bool.not_true, Bool.and_false, Bool.false_and]

theorem memberStarts_four : ∀ start ∈ methodStarts ++ fieldStarts, "    ".toList <+: start.toList := by decide

theorem fieldStarts_apart :
    ∀ start ∈ fieldStarts, ∀ other ∈ methodStarts,
      ¬ start.toList <+: other.toList ∧ ¬ other.toList <+: start.toList := by
  decide

theorem MethodShaped.shape_eq (method : line.MethodShaped) : line.shape = .method := by
  have any := any_startsWith_iff.mpr method
  obtain ⟨start, mem, starts⟩ := method
  have four := memberStarts_four start (List.mem_append_left _ mem)
  have noPackage : line.startsWith "package" = false :=
    startsWith_eq_false (startsWith_of_begins four starts) (by decide)
  rw [shape, noPackage, if_neg Bool.false_ne_true, not_header_of_four starts four, if_neg Bool.false_ne_true,
    if_pos any]

theorem FieldShaped.shape_eq (field : line.FieldShaped) : line.shape = .field := by
  have any := any_startsWith_iff.mpr field
  obtain ⟨start, mem, starts⟩ := field
  have four := memberStarts_four start (List.mem_append_right _ mem)
  have noPackage : line.startsWith "package" = false :=
    startsWith_eq_false (startsWith_of_begins four starts) (by decide)
  have noMethod := any_startsWith_eq_false starts (fieldStarts_apart start mem)
  rw [shape, noPackage, if_neg Bool.false_ne_true, not_header_of_four starts four, if_neg Bool.false_ne_true,
    noMethod, if_neg Bool.false_ne_true, if_pos any]

/-- The line neither opens nor ends a class, and declares no member. -/
structure Plain (line : Line) : Prop where
  noHeader : ¬ line.HeaderShaped
  noMember : ¬ line.MemberShaped
  noEnd : ¬ line.EndShaped

theorem plain_of_startsWith {start : String} (starts : line.startsWith start = true)
    (apart : ∀ other ∈ ["  ", "  \x7d", "    ctor", "    method", "    field", "    property", "    enum_constant"],
      ¬ start.toList <+: other.toList ∧ ¬ other.toList <+: start.toList) : line.Plain where
  noHeader header := by
    have two := header.1
    rw [startsWith_eq_false starts (apart _ (by decide))] at two
    exact Bool.false_ne_true two
  noMember := by
    rintro ⟨other, mem, starts'⟩
    have listed : ∀ other ∈ methodStarts ++ fieldStarts, other ∈
        ["  ", "  \x7d", "    ctor", "    method", "    field", "    property", "    enum_constant"] := by decide
    rw [startsWith_eq_false starts (apart other (listed other mem))] at starts'
    exact Bool.false_ne_true starts'
  noEnd ends := by
    rw [EndShaped, startsWith_eq_false starts (apart _ (by decide))] at ends
    exact Bool.false_ne_true ends

/-- A line that names a format is plain. -/
theorem plain_of_version? {version : List Char} (names : line.version? = some version) : line.Plain := by
  unfold version? at names
  split at names
  next first => exact plain_of_startsWith (Bool.and_eq_true_iff.mp first).2 (by decide)
  next => cases names

/-- Only the first line names a format. -/
theorem version?_of_number_ne (later : line.number ≠ 1) : line.version? = none := by
  rw [version?, decide_eq_false later, Bool.false_and]
  rfl

/-- What is not plain names no format. -/
theorem version?_of_not_plain (special : ¬ line.Plain) : line.version? = none := by
  cases names : line.version? with
  | none => rfl
  | some version => exact absurd (plain_of_version? names) special

theorem HeaderShaped.version?_eq_none (header : line.HeaderShaped) : line.version? = none :=
  version?_of_not_plain fun plain => plain.noHeader header

theorem MemberShaped.version?_eq_none (member : line.MemberShaped) : line.version? = none :=
  version?_of_not_plain fun plain => plain.noMember member

theorem EndShaped.version?_eq_none (ends : line.EndShaped) : line.version? = none :=
  version?_of_not_plain fun plain => plain.noEnd ends

/-- A line that names a format is the line of no package. -/
theorem noPackage_of_version? {version : List Char} (names : line.version? = some version) :
    line.startsWith "package" = false := by
  unfold version? at names
  split at names
  next first => exact startsWith_eq_false (Bool.and_eq_true_iff.mp first).2 (by decide)
  next => cases names

/-- Package lines are told by what they start with, whatever else they are. -/
theorem shape_eq_package_iff : line.shape = .package ↔ line.startsWith "package" = true := by
  refine ⟨fun package => Decidable.byContradiction fun other => ?_, fun start => if_pos start⟩
  rw [shape, if_neg other] at package
  repeat' split at package
  all_goals cases package

/-- The shape of a line, by what it starts with and ends in. -/
theorem shape_cases (line : Line) :
    (line.shape = .header ∧ line.HeaderShaped) ∨ (line.shape = .method ∧ line.MethodShaped) ∨
      (line.shape = .field ∧ line.FieldShaped) ∨ (line.shape = .close ∧ line.EndShaped ∧ ¬ line.HeaderShaped) ∨
      ((line.shape = .package ∨ line.shape = .other) ∧ line.Plain) := by
  by_cases header : line.HeaderShaped
  · exact .inl ⟨header.shape_eq, header⟩
  by_cases method : line.MethodShaped
  · exact .inr (.inl ⟨method.shape_eq, method⟩)
  by_cases field : line.FieldShaped
  · exact .inr (.inr (.inl ⟨field.shape_eq, field⟩))
  have noMember : ¬ line.MemberShaped := fun member => (memberShaped_iff.mp member).elim method field
  refine .inr (.inr (.inr ?_))
  unfold shape
  split
  next package =>
    exact .inr ⟨.inl rfl, plain_of_startsWith package (by decide)⟩
  next =>
    have noHeader :
        (line.startsWith "  " && !line.startsWith "    " && decide (line.text.getLast? = some '{')) = false := by
      rw [← Bool.not_eq_true]
      intro shaped
      simp only [Bool.and_eq_true, Bool.not_eq_true', decide_eq_true_eq] at shaped
      exact header ⟨shaped.1.1, shaped.1.2, shaped.2⟩
    rw [noHeader, if_neg Bool.false_ne_true, if_neg (fun any => method (any_startsWith_iff.mp any)),
      if_neg (fun any => field (any_startsWith_iff.mp any))]
    split
    next ends => exact .inl ⟨rfl, ends, header⟩
    next noEnd => exact .inr ⟨.inr rfl, header, noMember, noEnd⟩

theorem HeaderShaped.not_memberShaped (header : line.HeaderShaped) : ¬ line.MemberShaped := by
  intro member
  rcases memberShaped_iff.mp member with method | field
  · cases header.shape_eq.symm.trans method.shape_eq
  · cases header.shape_eq.symm.trans field.shape_eq

theorem MemberShaped.not_endShaped (member : line.MemberShaped) : ¬ line.EndShaped := by
  obtain ⟨start, mem, starts⟩ := member
  have apart : ∀ start ∈ methodStarts ++ fieldStarts,
      ¬ start.toList <+: "  \x7d".toList ∧ ¬ "  \x7d".toList <+: start.toList := by decide
  rw [EndShaped, startsWith_eq_false starts (apart start mem)]
  exact Bool.false_ne_true

end Line

end SignatureLint
