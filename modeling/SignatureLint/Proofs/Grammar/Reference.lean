import SignatureLint.Proofs.Grammar.Member

/-!
# Types word by word

A phrase of the grammar means what is kept of it, so a type means its name and its dimensions. A `Reference` says
how a type is written as well: the words of its name, and its suffixes but for annotations. The meaning of a type is
told by its reference (`typePhrase_eq`), and so is that of a list of types (`typeListPhrase_eq`); that of a value is
told by its tokens (`expression_eq`). Phrases that are made of other phrases are told by what these are told by:
each of them commutes with `Phrase.map`.
-/

namespace SignatureLint.Grammar

/-- The phrase, meaning what `f` makes of its meaning. -/
def Phrase.map {α β : Type} (f : α → β) (p : Phrase α) : Phrase β := fun ts b rest => ∃ a, p ts a rest ∧ b = f a

theorem Phrase.ext {α : Type} {p q : Phrase α} (same : ∀ ts a rest, p ts a rest ↔ q ts a rest) : p = q := by
  funext ts a rest
  exact propext (same ts a rest)

/-! ## Phrases made of phrases -/

section

variable {α β : Type} {f : α → β} {p : Phrase α}

theorem announced_map (t : Token) : Announced t (p.map f) = Phrase.map (Option.map f) (Announced t p) := by
  refine Phrase.ext fun ts b rest => ⟨?_, ?_⟩
  · rintro (⟨a, written, rfl⟩ | absent)
    · exact ⟨some a, .given written, rfl⟩
    · exact ⟨none, .none absent, rfl⟩
  · rintro ⟨_, written | absent, rfl⟩
    · exact .given ⟨_, written, rfl⟩
    · exact .none absent

theorem repeated_map (t : Token) : Repeated t (p.map f) = Phrase.map (List.map f) (Repeated t p) := by
  refine Phrase.ext fun ts bs rest => ⟨fun written => ?_, ?_⟩
  · induction written with
    | more one _ ih =>
      obtain ⟨a, written, rfl⟩ := one
      obtain ⟨as, more, rfl⟩ := ih
      exact ⟨a :: as, .more written more, rfl⟩
    | done absent => exact ⟨[], .done absent, rfl⟩
  · rintro ⟨as, written, rfl⟩
    induction written with
    | more one _ ih => exact .more ⟨_, one, rfl⟩ ih
    | done absent => exact .done absent

theorem untilBracket_map : UntilBracket (p.map f) = Phrase.map (List.map f) (UntilBracket p) := by
  refine Phrase.ext fun ts bs rest => ⟨fun written => ?_, ?_⟩
  · induction written with
    | last one =>
      obtain ⟨a, written, rfl⟩ := one
      exact ⟨[a], .last written, rfl⟩
    | more one _ ih =>
      obtain ⟨a, written, rfl⟩ := one
      obtain ⟨as, more, rfl⟩ := ih
      exact ⟨a :: as, .more written more, rfl⟩
  · rintro ⟨as, written, rfl⟩
    induction written with
    | last one => exact .last ⟨_, one, rfl⟩
    | more one _ ih => exact .more ⟨_, one, rfl⟩ ih

theorem bracketed_map : Bracketed (p.map f) = Phrase.map (List.map f) (Bracketed p) := by
  refine Phrase.ext fun ts bs rest => ⟨?_, ?_⟩
  · rintro (_ | ⟨absent, written⟩)
    · exact ⟨[], .none, rfl⟩
    · rw [untilBracket_map] at written
      obtain ⟨as, written, rfl⟩ := written
      exact ⟨as, .some absent written, rfl⟩
  · rintro ⟨_, _ | ⟨absent, written⟩, rfl⟩
    · exact .none
    · refine .some absent ?_
      rw [untilBracket_map]
      exact ⟨_, written, rfl⟩

theorem commaSeparated_map : CommaSeparated (p.map f) = Phrase.map (List.map f) (CommaSeparated p) := by
  refine Phrase.ext fun ts bs rest => ⟨?_, ?_⟩
  · rintro ⟨⟨a, one, rfl⟩, others⟩
    rw [repeated_map] at others
    obtain ⟨as, others, rfl⟩ := others
    exact ⟨a :: as, .elements one others, rfl⟩
  · rintro ⟨_, ⟨one, others⟩, rfl⟩
    refine .elements ⟨_, one, rfl⟩ ?_
    rw [repeated_map]
    exact ⟨_, others, rfl⟩

end

/-! ## Types -/

/-- A type as it is written, but for annotations and arguments. -/
structure Reference where
  /-- The words of its name: one, or two if the first ends in a dot. -/
  words : List String
  /-- Its array dimensions and marks of nullability. -/
  suffixes : List Token
deriving DecidableEq, Repr

/-- The type that is meant. -/
def Reference.text (r : Reference) : String := withDimensions (qualify (String.join r.words)) (r.suffixes.count .array)

/-- The words of a type's name. -/
inductive NameWords : Phrase (List String) where
  | whole {name : String} {rest : List Token} :
    name.toList.getLast? ≠ some '.' → NameWords (.word name :: rest) [name] rest
  | continued {first second : String} {ts rest : List Token} {annotations : List String} :
    first.toList.getLast? = some '.' → AnnotationPhrases ts annotations (.word second :: rest) →
      NameWords (.word first :: ts) [first, second] rest

/-- The marks of nullability. -/
def nullabilityMarks : List Token := [.punct '?', .punct '!']

/-- The suffixes of a type. Annotations among them are left out. -/
inductive SuffixTokens : Phrase (List Token) where
  | annotated {ts rest rest' suffixes : List Token} {text : String} :
    AnnotationPhrase ts text rest → SuffixTokens rest suffixes rest' → SuffixTokens (.atSign :: ts) suffixes rest'
  | more {t : Token} {ts rest suffixes : List Token} :
    t ∈ Token.array :: nullabilityMarks → SuffixTokens ts suffixes rest → SuffixTokens (t :: ts) (t :: suffixes) rest
  | done {ts : List Token} : (∀ t ∈ suffixStarts, ts.head? ≠ some t) → SuffixTokens ts [] ts

/-- A type, with its reference. -/
inductive ReferencePhrase : Phrase Reference where
  | reference {ts named after suffixed rest suffixes : List Token} {annotations words : List String} :
    AnnotationPhrases ts annotations named → NameWords named words after →
      OptionalGroup (.punct '<') (.punct '>') after suffixed → SuffixTokens suffixed suffixes rest →
      ReferencePhrase ts ⟨words, suffixes⟩ rest

section

variable {ts rest suffixes : List Token}

theorem SuffixTokens.mem (written : SuffixTokens ts suffixes rest) :
    ∀ t ∈ suffixes, t ∈ Token.array :: nullabilityMarks := by
  induction written with
  | annotated _ _ ih => exact ih
  | more mem _ ih => exact List.forall_mem_cons.mpr ⟨mem, ih⟩
  | done => exact fun t mem => absurd mem List.not_mem_nil

theorem SuffixTokens.ends (written : SuffixTokens ts suffixes rest) : ∀ t ∈ suffixStarts, rest.head? ≠ some t := by
  induction written with
  | annotated _ _ ih => exact ih
  | more _ _ ih => exact ih
  | done absent => exact absent

theorem ReferencePhrase.suffixTokens {r : Reference} (written : ReferencePhrase ts r rest) :
    ∃ suffixed, SuffixTokens suffixed r.suffixes rest := by
  obtain ⟨-, -, -, suffixes⟩ := written
  exact ⟨_, suffixes⟩

end

/-- A word that does not go on is a type. -/
theorem referencePhrase_word {name : String} {rest : List Token} (undotted : name.toList.getLast? ≠ some '.')
    (ends : ∀ t ∈ Token.punct '<' :: suffixStarts, rest.head? ≠ some t) :
    ReferencePhrase (.word name :: rest) ⟨[name], []⟩ rest := by
  obtain ⟨noArguments, noSuffix⟩ := List.forall_mem_cons.mp ends
  exact .reference (.done nofun) (.whole undotted) (.none noArguments) (.done noSuffix)

theorem namePhrase_eq : NamePhrase = Phrase.map String.join NameWords := by
  refine Phrase.ext fun ts name rest => ⟨?_, ?_⟩
  · rintro (undotted | ⟨dotted, annotations⟩)
    · exact ⟨_, .whole undotted, by simp [String.join]⟩
    · exact ⟨_, .continued dotted annotations, by simp [String.join]⟩
  · rintro ⟨_, undotted | ⟨dotted, annotations⟩, rfl⟩
    · have whole := @NamePhrase.whole _ rest undotted
      simpa [String.join] using whole
    · have continued := NamePhrase.continued dotted annotations
      simpa [String.join] using continued

theorem suffixPhrases_eq : SuffixPhrases = Phrase.map (List.count .array) SuffixTokens := by
  refine Phrase.ext fun ts dimensions rest => ⟨fun written => ?_, ?_⟩
  · induction written with
    | more one _ ih =>
      obtain ⟨suffixes, more, rfl⟩ := ih
      cases one with
      | annotated annotation => exact ⟨suffixes, .annotated annotation more, Nat.zero_add _⟩
      | array => exact ⟨_, .more (by decide) more, by rw [List.count_cons_self, Nat.add_comm]⟩
      | nullable => exact ⟨_, .more (by decide) more, by rw [List.count_cons_of_ne (by decide), Nat.zero_add]⟩
      | nonNull => exact ⟨_, .more (by decide) more, by rw [List.count_cons_of_ne (by decide), Nat.zero_add]⟩
    | done absent => exact ⟨[], .done absent, rfl⟩
  · rintro ⟨suffixes, written, rfl⟩
    induction written with
    | annotated annotation _ ih =>
      rw [← Nat.zero_add (List.count _ _)]
      exact .more (.annotated annotation) ih
    | more mem _ ih =>
      simp only [nullabilityMarks, List.mem_cons, List.not_mem_nil, or_false] at mem
      rcases mem with rfl | rfl | rfl
      · rw [List.count_cons_self, Nat.add_comm]
        exact .more .array ih
      · rw [List.count_cons_of_ne (by decide), ← Nat.zero_add (List.count _ _)]
        exact .more .nullable ih
      · rw [List.count_cons_of_ne (by decide), ← Nat.zero_add (List.count _ _)]
        exact .more .nonNull ih
    | done absent => exact .done absent

/-- **The meaning of a type is told by how it is written.** -/
theorem typePhrase_eq : TypePhrase = Phrase.map Reference.text ReferencePhrase := by
  refine Phrase.ext fun ts text rest => ⟨?_, ?_⟩
  · rintro ⟨annotations, name, arguments, suffixes⟩
    rw [namePhrase_eq] at name
    rw [suffixPhrases_eq] at suffixes
    obtain ⟨words, name, rfl⟩ := name
    obtain ⟨tokens, suffixes, rfl⟩ := suffixes
    exact ⟨⟨words, tokens⟩, .reference annotations name arguments suffixes, rfl⟩
  · rintro ⟨_, ⟨annotations, name, arguments, suffixes⟩, rfl⟩
    refine .type annotations ?_ arguments ?_
    · rw [namePhrase_eq]
      exact ⟨_, name, rfl⟩
    · rw [suffixPhrases_eq]
      exact ⟨_, suffixes, rfl⟩

/-! ## Lists of types -/

/-- The types after the first of a list. -/
inductive MoreReferences : Phrase (List Reference) where
  | more {ts type rest rest' : List Token} {r : Reference} {references : List Reference} {comma : Bool} :
    OptionalToken (.punct ',') ts comma type → ¬ AtListEnd type → ReferencePhrase type r rest →
      MoreReferences rest references rest' → MoreReferences ts (r :: references) rest'
  | done {ts rest : List Token} {comma : Bool} :
    OptionalToken (.punct ',') ts comma rest → AtListEnd rest → MoreReferences ts [] rest

/-- A list of supertypes. -/
inductive ReferenceList : Phrase (List Reference) where
  | references {ts rest rest' : List Token} {first : Reference} {more : List Reference} :
    ReferencePhrase ts first rest → MoreReferences rest more rest' → ReferenceList ts (first :: more) rest'

theorem moreTypesPhrase_eq : MoreTypesPhrase = Phrase.map (List.map Reference.text) MoreReferences := by
  refine Phrase.ext fun ts texts rest => ⟨fun written => ?_, ?_⟩
  · induction written with
    | more comma goesOn type _ ih =>
      rw [typePhrase_eq] at type
      obtain ⟨r, type, rfl⟩ := type
      obtain ⟨references, more, rfl⟩ := ih
      exact ⟨r :: references, .more comma goesOn type more, rfl⟩
    | done comma atEnd => exact ⟨[], .done comma atEnd, rfl⟩
  · rintro ⟨references, written, rfl⟩
    induction written with
    | more comma goesOn reference _ ih =>
      refine .more comma goesOn ?_ ih
      rw [typePhrase_eq]
      exact ⟨_, reference, rfl⟩
    | done comma atEnd => exact .done comma atEnd

theorem typeListPhrase_eq : TypeListPhrase = Phrase.map (List.map Reference.text) ReferenceList := by
  refine Phrase.ext fun ts texts rest => ⟨?_, ?_⟩
  · rintro ⟨first, more⟩
    rw [typePhrase_eq] at first
    rw [moreTypesPhrase_eq] at more
    obtain ⟨r, first, rfl⟩ := first
    obtain ⟨references, more, rfl⟩ := more
    exact ⟨r :: references, .references first more, rfl⟩
  · rintro ⟨_, @⟨ts, left, rest, r, references, first, more⟩, rfl⟩
    have first : TypePhrase ts r.text left := by
      rw [typePhrase_eq]
      exact ⟨_, first, rfl⟩
    have more : MoreTypesPhrase left (references.map Reference.text) rest := by
      rw [moreTypesPhrase_eq]
      exact ⟨_, more, rfl⟩
    exact .types first more

/-! ## Values -/

/-- The tokens of a value. -/
inductive ValueTokens (terminators : List Token) : Phrase (List Token) where
  | upTo {written rest : List Token} {t : Token} :
    written ≠ [] → depthOf written = 0 → t ∈ terminators →
      (∀ before u after, written = before ++ u :: after → depthOf before = 0 → u ∉ terminators) →
      ValueTokens terminators (written ++ t :: rest) written (t :: rest)

/-- A value is found where its end is found. -/
theorem valueTokens_of_eq_some {terminators ts written rest : List Token} (filled : written ≠ [])
    (found : valueTokens terminators 0 ts = some (written, rest)) : ValueTokens terminators ts written rest := by
  obtain ⟨rfl, ⟨t, next, mem⟩, closed, inside⟩ := valueTokens_eq_some.mp found
  obtain ⟨rest, rfl⟩ := List.head?_eq_some_iff.mp next
  exact .upTo filled closed mem inside

theorem expression_eq (terminators : List Token) :
    Expression terminators = Phrase.map spaced (ValueTokens terminators) := by
  refine Phrase.ext fun ts text rest => ⟨?_, ?_⟩
  · rintro ⟨filled, closed, mem, inside⟩
    exact ⟨_, .upTo filled closed mem inside, rfl⟩
  · rintro ⟨_, ⟨filled, closed, mem, inside⟩, rfl⟩
    exact .upTo filled closed mem inside

end SignatureLint.Grammar
