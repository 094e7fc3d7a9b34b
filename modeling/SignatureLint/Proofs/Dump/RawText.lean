import SignatureLint.Proofs.Dump.Belonging
import SignatureLint.Proofs.Dump.Blame

/-!
# The texts of declarations

The text of a declaration is cut out of its line: it has no character that the line lacks, so none that ends a line.
The text of a member starts with the keyword of its kind, since its line starts with four spaces and that keyword, of
which the spaces alone are cut off (`Line.opensWith_raw`). So the text of a method is never that of a field
(`methodText_apart`). All of this holds of every class that a stream hands out, in both formats
(`Class.textsKept_of_mem_drain`).
-/

namespace SignatureLint

/-! ## Cutting -/

namespace Text

variable {cut : Char → Bool}

theorem trimEndBy_begins (text : List Char) : trimEndBy cut text <+: text :=
  ⟨_, trimEndBy_append_takeWhile cut text⟩

theorem trimBy_subset (text : List Char) : trimBy cut text ⊆ text :=
  fun _ mem => (trimEndBy_begins text).subset ((List.dropWhile_suffix cut).subset mem)

/-- A character that is not cut stays, and all before it, whatever stands behind it. -/
theorem prefix_trimEndBy {last : Char} (kept : cut last = false) (front back : List Char) :
    front ++ [last] <+: trimEndBy cut (front ++ [last] ++ back) := by
  have stays : trimEndBy cut (front ++ [last]) = front ++ [last] := by
    rw [trimEndBy_append]
    simp [trimEndBy, kept]
  rw [trimEndBy_append]
  split
  · exact ⟨[], (List.append_nil _).trans stays.symm⟩
  · exact List.prefix_append _ _

/-- Of a text that is cut on both sides, a word that is not cut is left, with nothing before it. -/
theorem prefix_trimBy {edge word : List Char} (cuts : ∀ c ∈ edge, cut c = true) (solid : ∀ c ∈ word, cut c = false)
    (back : List Char) : word <+: trimBy cut (edge ++ word ++ back) := by
  rcases List.eq_nil_or_concat word with rfl | ⟨start, last, ends⟩
  · exact List.nil_prefix
  · rw [List.concat_eq_append] at ends
    obtain ⟨rest, left⟩ := prefix_trimEndBy (solid last (by simp [ends])) (edge ++ start) back
    have cutEnd : trimEndBy cut (edge ++ word ++ back) = edge ++ (word ++ rest) := by
      rw [ends]
      simpa using left.symm
    obtain ⟨c, more, rfl⟩ := List.exists_cons_of_ne_nil (l := word) (by simp [ends])
    have kept : ¬ cut c = true := Bool.eq_false_iff.mp (solid c List.mem_cons_self)
    rw [trimBy, cutEnd, List.dropWhile_append_of_pos cuts, List.cons_append, List.dropWhile_cons_of_neg kept]
    exact List.prefix_append (c :: more) rest

end Text

/-! ## Texts of lines -/

/-- One of the keywords starts the text. -/
def OpensWith (keywords : List String) (raw : String) : Prop := ∃ keyword ∈ keywords, keyword.toList <+: raw.toList

/-- Texts that start with keywords of two lists are apart, if no keyword of one begins one of the other. -/
theorem OpensWith.apart {keywords others : List String} {raw : String}
    (differ : ∀ keyword ∈ keywords, ∀ other ∈ others,
      ¬ keyword.toList <+: other.toList ∧ ¬ other.toList <+: keyword.toList)
    (opens : OpensWith keywords raw) : ¬ OpensWith others raw := by
  rintro ⟨other, mem', starts'⟩
  obtain ⟨keyword, mem, starts⟩ := opens
  rcases List.prefix_or_prefix_of_prefix starts starts' with begins | begins
  · exact (differ keyword mem other mem').1 begins
  · exact (differ keyword mem other mem').2 begins

namespace Line

variable {line : Line}

/-- A line has no character that its text in the dump lacks. -/
theorem text_subset (number : Nat) (text : String) : (ofText number text).text ⊆ text.toList := by
  have trimmed : Text.trimEnd text.toList ⊆ text.toList := (Text.trimEndBy_begins _).subset
  unfold ofText
  dsimp only
  split
  next blame rest split =>
    obtain ⟨before, same, -⟩ := Blame.exists_prefix split
    exact fun c mem => trimmed (same ▸ List.mem_append_right before mem)
  next => exact trimmed

theorem raw_subset (line : Line) : line.origin.raw.toList ⊆ line.text := by
  rw [origin, String.toList_ofList]
  exact Text.trimBy_subset line.text

/-- A line that starts with four spaces and one of the keywords declares a text that starts with the keyword. -/
theorem opensWith_raw {keywords : List String} (starts : line.StartsWithOneOf (keywords.map ("    " ++ ·)))
    (solid : ∀ keyword ∈ keywords, keyword.toList.all (fun c => !isEdge c) = true) :
    OpensWith keywords line.origin.raw := by
  obtain ⟨start, mem, starts⟩ := starts
  obtain ⟨keyword, listed, rfl⟩ := List.mem_map.mp mem
  obtain ⟨back, text⟩ := startsWith_iff.mp starts
  have spaces : ∀ c ∈ "    ".toList, isEdge c = true := List.all_eq_true.mp (by decide)
  have word : ∀ c ∈ keyword.toList, isEdge c = false := by
    intro c mem
    simpa using List.all_eq_true.mp (solid keyword listed) c mem
  refine ⟨keyword, listed, ?_⟩
  rw [origin, String.toList_ofList, ← text, String.toList_append]
  exact Text.prefix_trimBy spaces word back

theorem methodShaped_of_shape (shape : line.shape = .method) : line.MethodShaped := by
  rcases line.shape_cases with ⟨other, -⟩ | ⟨-, method⟩ | ⟨other, -⟩ | ⟨other, -⟩ | ⟨other | other, -⟩
  · cases shape.symm.trans other
  · exact method
  all_goals cases shape.symm.trans other

theorem fieldShaped_of_shape (shape : line.shape = .field) : line.FieldShaped := by
  rcases line.shape_cases with ⟨other, -⟩ | ⟨other, -⟩ | ⟨-, field⟩ | ⟨other, -⟩ | ⟨other | other, -⟩
  · cases shape.symm.trans other
  · cases shape.symm.trans other
  · exact field
  all_goals cases shape.symm.trans other

end Line

/-! ## Texts of members -/

def methodKeywords : List String := MethodKind.all.map MethodKind.keyword

def fieldKeywords : List String := FieldKind.all.map FieldKind.keyword

/-- No text starts as that of a method and as that of a field. -/
theorem methodText_apart {raw : String} (method : OpensWith methodKeywords raw) : ¬ OpensWith fieldKeywords raw :=
  method.apart (by decide)

section

variable {c : Class} {line : Line}

theorem opensWith_of_methodOn? {m : Method} (declared : c.methodOn? line = some m) :
    OpensWith methodKeywords m.origin.raw := by
  have shape : line.shape = .method := (Option.ite_none_right_eq_some.mp declared).1
  rw [(Class.read_of_methodOn? declared).2.1]
  exact Line.opensWith_raw (Line.methodShaped_of_shape shape) (by decide)

theorem opensWith_of_fieldOn? {f : Field} (declared : c.fieldOn? line = some f) :
    OpensWith fieldKeywords f.origin.raw := by
  have shape : line.shape = .field := (Option.ite_none_right_eq_some.mp declared).1
  rw [(Class.read_of_fieldOn? declared).2.1]
  exact Line.opensWith_raw (Line.fieldShaped_of_shape shape) (by decide)

end

/-! ## Texts of classes -/

namespace Class

/-- The texts of a class and its members: the declaration, the methods and the fields. -/
def rawTexts (c : Class) : List String :=
  c.origin.raw :: c.methods.map (·.origin.raw) ++ c.fields.map (·.origin.raw)

/-- What a class keeps of its lines: no text ends a line, and members start with their keywords. -/
structure TextsKept (c : Class) : Prop where
  noLineEnd : ∀ raw ∈ c.rawTexts, '\n' ∉ raw.toList
  methods : ∀ raw ∈ c.methods.map (·.origin.raw), OpensWith methodKeywords raw
  fields : ∀ raw ∈ c.fields.map (·.origin.raw), OpensWith fieldKeywords raw

/-- Each text of a class is that of one of its lines. -/
theorem StandsOn.exists_line {c : Class} {format : Format} {before body : List Line} {header : Line}
    (stands : c.StandsOn format before header body) {raw : String} (mem : raw ∈ c.rawTexts) :
    ∃ line ∈ header :: body, raw = line.origin.raw := by
  rcases List.mem_append.mp mem with declared | ofField
  · rcases List.mem_cons.mp declared with rfl | ofMethod
    · exact ⟨header, List.mem_cons_self, congrArg Origin.raw stands.origin⟩
    · obtain ⟨m, memM, rfl⟩ := List.mem_map.mp ofMethod
      obtain ⟨-, line, inBody, origin, -⟩ := stands.methodOwners m memM
      exact ⟨line, List.mem_cons_of_mem _ inBody, congrArg Origin.raw origin⟩
  · obtain ⟨f, memF, rfl⟩ := List.mem_map.mp ofField
    obtain ⟨-, line, inBody, origin, -⟩ := stands.fieldOwners f memF
    exact ⟨line, List.mem_cons_of_mem _ inBody, congrArg Origin.raw origin⟩

/-- **Every class that a stream hands out keeps what its lines say**, if no line holds the end of another. -/
theorem textsKept_of_mem_drain {file : String} {texts : List String} (lines : ∀ text ∈ texts, '\n' ∉ text.toList)
    {c : Class} (mem : c ∈ (Stream.ofLines file texts).drain.1) : c.TextsKept := by
  obtain ⟨before, header, body, ending, after, numbers, -, made⟩ := (Reader.tells_after file texts).handed c mem
  have stands := made.standsOn
  refine ⟨?_, ?_, ?_⟩
  · intro raw memRaw
    obtain ⟨line, inClass, rfl⟩ := stands.exists_line memRaw
    have inDump : line ∈ numbered texts := by
      rw [numbers]
      simp only [List.mem_append, List.mem_cons] at inClass ⊢
      tauto
    obtain ⟨i, inside, rfl⟩ := List.mem_mapIdx.mp inDump
    intro ends
    exact lines _ (List.getElem_mem inside) (Line.text_subset _ _ (Line.raw_subset _ ends))
  · intro raw memRaw
    obtain ⟨m, memM, rfl⟩ := List.mem_map.mp memRaw
    rw [made.methods] at memM
    obtain ⟨line, -, declared⟩ := List.mem_filterMap.mp memM
    exact opensWith_of_methodOn? declared
  · intro raw memRaw
    obtain ⟨f, memF, rfl⟩ := List.mem_map.mp memRaw
    rw [made.fields] at memF
    obtain ⟨line, -, declared⟩ := List.mem_filterMap.mp memF
    exact opensWith_of_fieldOn? declared

end Class

end SignatureLint
