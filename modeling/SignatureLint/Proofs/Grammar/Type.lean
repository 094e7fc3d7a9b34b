import SignatureLint.Proofs.Grammar.Phrase

/-!
# Annotations and types as they are written

The phrases of annotations, types and lists of supertypes. A list of supertypes has no closing token: it ends
before `{`, before the next keyword, or with the line, and a keyword is a type's name only where a type must
stand. `annotations_eq_ok`, `type_eq_ok` and `typeList_eq_ok` say that each is read as it is written.
-/

namespace SignatureLint.Grammar

/-! ## The written grammar -/

/-- An annotation after its mark: a name, and a group of arguments that may be left out. -/
inductive AnnotationPhrase : Phrase String where
  | named {name : String} {ts rest : List Token} :
    OptionalGroup (.punct '(') (.punct ')') ts rest → AnnotationPhrase (.word name :: ts) ("@" ++ name) rest

/-- All annotations that stand here. -/
abbrev AnnotationPhrases : Phrase (List String) := Repeated .atSign AnnotationPhrase

/-- The name a type starts with: a word, or two where the first ends in a dot. -/
inductive NamePhrase : Phrase String where
  | whole {name : String} {rest : List Token} :
    name.toList.getLast? ≠ some '.' → NamePhrase (.word name :: rest) name rest
  | continued {first second : String} {ts rest : List Token} {annotations : List String} :
    first.toList.getLast? = some '.' → AnnotationPhrases ts annotations (.word second :: rest) →
      NamePhrase (.word first :: ts) (first ++ second) rest

/-- What may follow a type's name and arguments. An array adds a dimension, and the rest adds none. -/
inductive SuffixPhrase : Phrase Nat where
  | annotated {ts rest : List Token} {text : String} :
    AnnotationPhrase ts text rest → SuffixPhrase (.atSign :: ts) 0 rest
  | array {rest : List Token} : SuffixPhrase (.array :: rest) 1 rest
  | nullable {rest : List Token} : SuffixPhrase (.punct '?' :: rest) 0 rest
  | nonNull {rest : List Token} : SuffixPhrase (.punct '!' :: rest) 0 rest

/-- The tokens that a suffix of a type starts with. -/
def suffixStarts : List Token := [.atSign, .array, .punct '?', .punct '!']

/-- All suffixes that stand here, with the number of their dimensions. -/
inductive SuffixPhrases : Phrase Nat where
  | more {ts rest rest' : List Token} {dimensions more : Nat} :
    SuffixPhrase ts dimensions rest → SuffixPhrases rest more rest' → SuffixPhrases ts (dimensions + more) rest'
  | done {ts : List Token} : (∀ t ∈ suffixStarts, ts.head? ≠ some t) → SuffixPhrases ts 0 ts

/-- A type. Its annotations and its arguments say nothing here. -/
inductive TypePhrase : Phrase String where
  | type {ts named after suffixed rest : List Token} {annotations : List String} {name : String} {dimensions : Nat} :
    AnnotationPhrases ts annotations named → NamePhrase named name after →
      OptionalGroup (.punct '<') (.punct '>') after suffixed → SuffixPhrases suffixed dimensions rest →
      TypePhrase ts (withDimensions (qualify name) dimensions) rest

/-- Where a list of supertypes ends: before one of these tokens, or with the line. -/
def AtListEnd (ts : List Token) : Prop := ∀ t ∈ ts.head?, t = .punct '{' ∨ t = .word "implements" ∨ t = .word "extends"

/-- The types after the first of a list: each may have a comma before it, and so may the end. -/
inductive MoreTypesPhrase : Phrase (List String) where
  | more {ts type rest rest' : List Token} {text : String} {texts : List String} {comma : Bool} :
    OptionalToken (.punct ',') ts comma type → ¬ AtListEnd type → TypePhrase type text rest →
      MoreTypesPhrase rest texts rest' → MoreTypesPhrase ts (text :: texts) rest'
  | done {ts rest : List Token} {comma : Bool} :
    OptionalToken (.punct ',') ts comma rest → AtListEnd rest → MoreTypesPhrase ts [] rest

/-- A list of supertypes. -/
inductive TypeListPhrase : Phrase (List String) where
  | types {ts rest rest' : List Token} {first : String} {more : List String} :
    TypePhrase ts first rest → MoreTypesPhrase rest more rest' → TypeListPhrase ts (first :: more) rest'

/-! ## Annotations -/

variable {ts rest : List Token}

theorem annotation_eq_ok {text : String} : annotation ts = .ok (text, rest) ↔ AnnotationPhrase ts text rest := by
  constructor
  · intro read
    obtain ⟨⟨name, left⟩, named, read⟩ := bind_eq_ok.mp read
    obtain ⟨left', skipped, read⟩ := bind_eq_ok.mp read
    cases pure_eq_ok.mp read
    rw [word_eq_ok.mp named]
    exact .named ((skipGroup_eq_ok (by decide)).mp skipped)
  · rintro @⟨name, ts, _, arguments⟩
    refine bind_eq_ok.mpr ⟨_, word_eq_ok.mpr rfl, ?_⟩
    exact bind_eq_ok.mpr ⟨_, (skipGroup_eq_ok (by decide)).mpr arguments, rfl⟩

theorem annotations_eq_ok {texts : List String} :
    annotations ts = .ok (texts, rest) ↔ AnnotationPhrases ts texts rest := by
  constructor
  · intro read
    fun_induction annotations ts generalizing texts with
    | case1 => cases read
    | case2 left text left' one ih =>
      cases more : annotations left' with
      | error => rw [more] at read; cases read
      | ok found =>
        rw [more] at read
        cases read
        exact .more (annotation_eq_ok.mp one) (ih more)
    | case3 ts noMark =>
      cases read
      refine .done fun next => ?_
      obtain ⟨left, rfl⟩ := List.head?_eq_some_iff.mp next
      exact noMark left rfl
  · intro written
    induction written with
    | more one _ ih =>
      rw [annotations, annotation_eq_ok.mpr one]
      dsimp only
      rw [ih]
      rfl
    | @done ts absent =>
      unfold annotations
      split
      next => exact absurd rfl absent
      next => rfl

/-! ## Types -/

theorem typeName_eq_ok {name : String} : typeName ts = .ok (name, rest) ↔ NamePhrase ts name rest := by
  constructor
  · intro read
    obtain ⟨⟨first, left⟩, named, read⟩ := bind_eq_ok.mp read
    rw [word_eq_ok.mp named]
    dsimp only at read
    split at read
    next dotted =>
      obtain ⟨⟨_, left'⟩, annotated, read⟩ := bind_eq_ok.mp read
      obtain ⟨⟨second, left''⟩, continued, read⟩ := bind_eq_ok.mp read
      cases pure_eq_ok.mp read
      have between := annotations_eq_ok.mp annotated
      dsimp only at continued
      rw [word_eq_ok.mp continued] at between
      exact .continued dotted between
    next undotted =>
      cases pure_eq_ok.mp read
      exact .whole undotted
  · rintro (undotted | ⟨dotted, annotated⟩)
    · refine bind_eq_ok.mpr ⟨_, word_eq_ok.mpr rfl, ?_⟩
      dsimp only
      rw [if_neg undotted]
      rfl
    · refine bind_eq_ok.mpr ⟨_, word_eq_ok.mpr rfl, ?_⟩
      dsimp only
      rw [if_pos dotted]
      refine bind_eq_ok.mpr ⟨_, annotations_eq_ok.mpr annotated, ?_⟩
      exact bind_eq_ok.mpr ⟨_, word_eq_ok.mpr rfl, rfl⟩

theorem typeSuffix_eq_ok {dimensions : Nat} :
    typeSuffix ts = .ok (dimensions, rest) ↔ SuffixPhrases ts dimensions rest := by
  constructor
  · intro read
    fun_induction typeSuffix ts generalizing dimensions with
    | case1 => cases read
    | case2 left text left' one ih =>
      rw [← Nat.zero_add dimensions]
      exact .more (.annotated (annotation_eq_ok.mp one)) (ih read)
    | case3 left ih =>
      cases more : typeSuffix left with
      | error => rw [more] at read; cases read
      | ok found =>
        rw [more] at read
        cases read
        rw [Nat.add_comm]
        exact .more .array (ih more)
    | case4 left ih =>
      rw [← Nat.zero_add dimensions]
      exact .more .nullable (ih read)
    | case5 left ih =>
      rw [← Nat.zero_add dimensions]
      exact .more .nonNull (ih read)
    | case6 ts noMark noArray noNullable noNonNull =>
      cases read
      refine .done fun t mem next => ?_
      obtain ⟨left, rfl⟩ := List.head?_eq_some_iff.mp next
      simp only [suffixStarts, List.mem_cons, List.not_mem_nil, or_false] at mem
      rcases mem with rfl | rfl | rfl | rfl
      · exact noMark left rfl
      · exact noArray left rfl
      · exact noNullable left rfl
      · exact noNonNull left rfl
  · intro written
    induction written with
    | more one _ ih =>
      cases one with
      | annotated one =>
        rw [typeSuffix, annotation_eq_ok.mpr one]
        dsimp only
        rw [ih, Nat.zero_add]
      | array =>
        rw [typeSuffix, ih, Nat.add_comm]
        rfl
      | nullable => rw [typeSuffix, ih, Nat.zero_add]
      | nonNull => rw [typeSuffix, ih, Nat.zero_add]
    | @done ts absent =>
      unfold typeSuffix
      split
      next => exact absurd rfl (absent .atSign (by decide))
      next => exact absurd rfl (absent .array (by decide))
      next => exact absurd rfl (absent (.punct '?') (by decide))
      next => exact absurd rfl (absent (.punct '!') (by decide))
      next => rfl

/-- A type is read as it is written. -/
theorem type_eq_ok {text : String} : type ts = .ok (text, rest) ↔ TypePhrase ts text rest := by
  constructor
  · intro read
    obtain ⟨⟨_, left⟩, annotated, read⟩ := bind_eq_ok.mp read
    obtain ⟨⟨name, left'⟩, named, read⟩ := bind_eq_ok.mp read
    obtain ⟨left'', skipped, read⟩ := bind_eq_ok.mp read
    obtain ⟨⟨dimensions, left'''⟩, suffixed, read⟩ := bind_eq_ok.mp read
    cases pure_eq_ok.mp read
    exact .type (annotations_eq_ok.mp annotated) (typeName_eq_ok.mp named)
      ((skipGroup_eq_ok (by decide)).mp skipped) (typeSuffix_eq_ok.mp suffixed)
  · rintro ⟨annotated, named, arguments, suffixed⟩
    refine bind_eq_ok.mpr ⟨_, annotations_eq_ok.mpr annotated, ?_⟩
    refine bind_eq_ok.mpr ⟨_, typeName_eq_ok.mpr named, ?_⟩
    refine bind_eq_ok.mpr ⟨_, (skipGroup_eq_ok (by decide)).mpr arguments, ?_⟩
    exact bind_eq_ok.mpr ⟨_, typeSuffix_eq_ok.mpr suffixed, rfl⟩

/-! ## Lists of supertypes -/

theorem all_endsTypeList_iff : ts.head?.all endsTypeList = true ↔ AtListEnd ts := by
  cases ts with
  | nil => simp [AtListEnd]
  | cons t ts => simp [AtListEnd, endsTypeList, or_assoc]

theorem moreTypes_eq_ok {texts : List String} :
    moreTypes ts = .ok (texts, rest) ↔ MoreTypesPhrase ts texts rest := by
  constructor
  · intro read
    fun_induction moreTypes ts generalizing texts with
    | case1 ts ends =>
      cases read
      exact .done (takeIf_eq.mp rfl) (all_endsTypeList_iff.mp ends)
    | case2 => cases read
    | case3 ts goesOn text left one ih =>
      cases more : moreTypes left with
      | error => rw [more] at read; cases read
      | ok found =>
        rw [more] at read
        cases read
        exact .more (takeIf_eq.mp rfl) (fun ends => goesOn (all_endsTypeList_iff.mpr ends)) (type_eq_ok.mp one)
          (ih more)
  · intro written
    induction written with
    | more comma goesOn one _ ih =>
      rw [moreTypes, skipIf, takeIf_eq.mpr comma, if_neg (fun ends => goesOn (all_endsTypeList_iff.mp ends)),
        type_eq_ok.mpr one]
      dsimp only
      rw [ih]
      rfl
    | done comma ends =>
      rw [moreTypes, skipIf, takeIf_eq.mpr comma, if_pos (all_endsTypeList_iff.mpr ends)]

/-- A list of supertypes is read as it is written. -/
theorem typeList_eq_ok {texts : List String} : typeList ts = .ok (texts, rest) ↔ TypeListPhrase ts texts rest := by
  constructor
  · intro read
    obtain ⟨⟨first, left⟩, one, read⟩ := bind_eq_ok.mp read
    obtain ⟨⟨more, left'⟩, others, read⟩ := bind_eq_ok.mp read
    cases pure_eq_ok.mp read
    exact .types (type_eq_ok.mp one) (moreTypes_eq_ok.mp others)
  · rintro ⟨one, others⟩
    refine bind_eq_ok.mpr ⟨_, type_eq_ok.mpr one, ?_⟩
    exact bind_eq_ok.mpr ⟨_, moreTypes_eq_ok.mpr others, rfl⟩

end SignatureLint.Grammar
