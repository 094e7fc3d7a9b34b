import SignatureLint.Proofs.Grammar.Header
import SignatureLint.Proofs.Grammar.Reference

/-!
# Declarations with their parts

What a line declares leaves out how its types and values are written. The parts of a declaration keep that:
`HeaderParts`, `MethodParts` and `FieldParts` hold references for types and tokens for values, and each tells the
declaration that is meant. A line is read in format 2 just when it is written with some parts, and it declares what
these tell (`classHeader_iff_parts`, `method_iff_parts`, `field_iff_parts`).
-/

namespace SignatureLint.Grammar

variable {ts rest : List Token}

/-! ## Class headers -/

/-- The parts of a class header. -/
structure HeaderParts where
  kind : ClassKind
  annotations : List String
  words : List String
  declared : String
  extended : Option (List Reference)
  implemented : Option (List Reference)

/-- The types of both clauses. -/
def HeaderParts.supertypes (parts : HeaderParts) : List Reference :=
  parts.extended.getD [] ++ parts.implemented.getD []

/-- Of each clause the types after the first. -/
def HeaderParts.laterSupertypes (parts : HeaderParts) : List Reference :=
  (parts.extended.getD []).tail ++ (parts.implemented.getD []).tail

/-- The types that a clause names. -/
def clauseTexts (references : Option (List Reference)) : Option (List String) :=
  references.map (List.map Reference.text)

/-- The header that is meant. -/
def HeaderParts.header (parts : HeaderParts) : ClassHeader where
  modifiers := modifierSet parts.kind.keyword parts.annotations (parts.words ++ parts.kind.implied)
  annotations := parts.annotations
  declared := parts.declared
  superclasses := (clauseTexts parts.extended).getD []
  interfaces := implementedBy parts.kind (clauseTexts parts.extended) (clauseTexts parts.implemented)

/-- The tokens of a line that declares a class, and its parts. -/
inductive HeaderLine : List Token → HeaderParts → Prop where
  | line {parts : HeaderParts} {annotated modified generic clauses left : List Token} :
    AnnotationPhrases annotated parts.annotations modified →
      Words modifierWords modified parts.words (parts.kind.token :: .word parts.declared :: generic) →
      OptionalGroup (.punct '<') (.punct '>') generic clauses →
      Announced (.word "extends") ReferenceList clauses parts.extended left →
      Announced (.word "implements") ReferenceList left parts.implemented [.punct '{'] → HeaderLine annotated parts

theorem announcedTypes_iff {t : Token} {texts : Option (List String)} :
    Announced t TypeListPhrase ts texts rest ↔
      ∃ given, Announced t ReferenceList ts given rest ∧ texts = clauseTexts given := by
  rw [typeListPhrase_eq, announced_map]
  rfl

theorem HeaderLine.classLine {parts : HeaderParts} (written : HeaderLine ts parts) :
    ClassLine parts.kind ts parts.header := by
  obtain ⟨annotations, words, arguments, extended, implemented⟩ := written
  have extended := announcedTypes_iff.mpr ⟨_, extended, rfl⟩
  have implemented := announcedTypes_iff.mpr ⟨_, implemented, rfl⟩
  exact .line annotations words arguments extended implemented modifiersAre_modifierSet

/-- **A line is read as a class header just when it is written with parts that tell the header.** -/
theorem classHeader_iff_parts {header : ClassHeader} :
    classHeader ts = .ok header ↔ ∃ parts, HeaderLine ts parts ∧ header = parts.header := by
  rw [classHeader_eq_ok]
  constructor
  · rintro ⟨kind, annotations, words, arguments, extendsClause, implementsClause, are⟩
    obtain ⟨given, extended, rfl⟩ := announcedTypes_iff.mp extendsClause
    obtain ⟨given', implemented, rfl⟩ := announcedTypes_iff.mp implementsClause
    rw [are.eq_modifierSet]
    exact ⟨⟨kind, _, _, _, given, given'⟩, .line annotations words arguments extended implemented, rfl⟩
  · rintro ⟨parts, written, rfl⟩
    exact ⟨parts.kind, written.classLine⟩

/-! ## Parameters -/

/-- A mark of nullability that may be left out. -/
inductive OptionalMark : Phrase (Option Token) where
  | given {t : Token} {rest : List Token} : t ∈ nullabilityMarks → OptionalMark (t :: rest) (some t) rest
  | none {ts : List Token} : (∀ t ∈ nullabilityMarks, ts.head? ≠ some t) → OptionalMark ts none ts

/-- The parts of a parameter. -/
structure ParameterParts where
  vararg : Bool
  annotations : List String
  type : Reference
  variadic : Bool
  /-- The mark of nullability behind the type and its three dots. -/
  mark : Option Token
  name : Option String
  value : Option (List Token)

/-- The parameter that is meant. -/
def ParameterParts.parameter (p : ParameterParts) : Parameter where
  type := if p.variadic then p.type.text ++ "..." else p.type.text
  name := p.name
  annotations := p.annotations
  value := p.value.map spaced

/-- A parameter, with its parts. -/
inductive ParameterPartsPhrase : Phrase ParameterParts where
  | parameter {p : ParameterParts} {ts annotated typed dotted marked named valued rest : List Token} :
    OptionalToken (.word "vararg") ts p.vararg annotated → AnnotationPhrases annotated p.annotations typed →
      ReferencePhrase typed p.type dotted → OptionalToken .ellipsis dotted p.variadic marked →
      OptionalMark marked p.mark named → OptionalName named p.name valued →
      Announced (.punct '=') (ValueTokens [.punct ',', .punct ')']) valued p.value rest →
      ParameterPartsPhrase ts p rest

theorem optionalNullability_iff : OptionalNullability ts rest ↔ ∃ mark, OptionalMark ts mark rest := by
  constructor
  · rintro (_ | _ | ⟨noNullable, noNonNull⟩)
    · exact ⟨_, .given (by decide)⟩
    · exact ⟨_, .given (by decide)⟩
    · refine ⟨none, .none fun t mem => ?_⟩
      simp only [nullabilityMarks, List.mem_cons, List.not_mem_nil, or_false] at mem
      rcases mem with rfl | rfl
      · exact noNullable
      · exact noNonNull
  · rintro ⟨_, mem | absent⟩
    · simp only [nullabilityMarks, List.mem_cons, List.not_mem_nil, or_false] at mem
      rcases mem with rfl | rfl
      · exact .nullable
      · exact .nonNull
    · exact .none (absent _ (by decide)) (absent _ (by decide))

theorem announcedValue_iff {t : Token} {terminators : List Token} {text : Option String} :
    Announced t (Expression terminators) ts text rest ↔
      ∃ tokens, Announced t (ValueTokens terminators) ts tokens rest ∧ text = tokens.map spaced := by
  rw [expression_eq, announced_map]
  rfl

/-- The meaning of a parameter is told by its parts. -/
theorem parameterPhrase_eq : ParameterPhrase = Phrase.map ParameterParts.parameter ParameterPartsPhrase := by
  refine Phrase.ext fun ts p rest => ⟨?_, ?_⟩
  · rintro ⟨vararg, annotations, typed, dots, nullability, name, valued⟩
    rw [typePhrase_eq] at typed
    obtain ⟨r, type, rfl⟩ := typed
    obtain ⟨mark, marked⟩ := optionalNullability_iff.mp nullability
    obtain ⟨tokens, value, rfl⟩ := announcedValue_iff.mp valued
    exact ⟨⟨_, _, r, _, mark, _, tokens⟩, .parameter vararg annotations type dots marked name value, rfl⟩
  · rintro ⟨p, @⟨_, _, annotated, typed, dotted, marked, named, valued, _, vararg, annotations, type, dots, mark,
      name, value⟩, rfl⟩
    have type : TypePhrase typed p.type.text dotted := by
      rw [typePhrase_eq]
      exact ⟨_, type, rfl⟩
    have value := announcedValue_iff.mpr ⟨_, value, rfl⟩
    exact .parameter vararg annotations type dots (optionalNullability_iff.mpr ⟨_, mark⟩) name value

/-! ## Constructors and methods -/

/-- The parts of a constructor or method. -/
structure MethodParts where
  kind : MethodKind
  annotations : List String
  words : List String
  /-- The type of the result, which a constructor does not write. -/
  result : Option Reference
  name : String
  parameters : List ParameterParts
  throws : Option (List Reference)
  value : Option (List Token)

/-- What the constructor or method declares. -/
def MethodParts.signature (parts : MethodParts) : MethodSignature where
  kind := parts.kind
  modifiers := modifierSet parts.kind.keyword parts.annotations parts.words
  annotations := parts.annotations
  type := (parts.result.map Reference.text).getD "ctor"
  name := parts.name
  parameters := parts.parameters.map ParameterParts.parameter
  throws := (clauseTexts parts.throws).getD []
  value := parts.value.map spaced

/-- The type of a result, with its reference. -/
inductive ResultReference : MethodKind → Phrase (Option Reference) where
  | constructor {ts : List Token} : ResultReference .constructor ts none ts
  | method {ts rest : List Token} {r : Reference} : ReferencePhrase ts r rest → ResultReference .method ts (some r) rest

/-- The tokens of a line that declares a constructor, or a method or element, of an annotation type, and its parts. -/
inductive ElementLine : List Token → MethodParts → Prop where
  | line {parts : MethodParts} {annotated modified generic typed bracketed thrown ended : List Token} :
    AnnotationPhrases annotated parts.annotations modified → Words modifierWords modified parts.words generic →
      OptionalGroup (.punct '<') (.punct '>') generic typed →
      ResultReference parts.kind typed parts.result (.word parts.name :: bracketed) →
      Bracketed ParameterPartsPhrase bracketed parts.parameters thrown →
      Announced (.word "throws") (CommaSeparated ReferencePhrase) thrown parts.throws ended →
      Announced (.word "default") (ValueTokens [.punct ';']) ended parts.value [.punct ';'] →
      ElementLine (.word parts.kind.keyword :: annotated) parts

theorem resultPhrase_iff {kind : MethodKind} {type : String} :
    ResultPhrase kind ts type rest ↔
      ∃ result, ResultReference kind ts result rest ∧ type = (result.map Reference.text).getD "ctor" := by
  constructor
  · rintro (_ | type)
    · exact ⟨none, .constructor, rfl⟩
    · rw [typePhrase_eq] at type
      obtain ⟨r, type, rfl⟩ := type
      exact ⟨some r, .method type, rfl⟩
  · rintro ⟨_, _ | reference, rfl⟩
    · exact .constructor
    · refine .method ?_
      rw [typePhrase_eq]
      exact ⟨_, reference, rfl⟩

theorem bracketedParameters_iff {parameters : List Parameter} :
    Bracketed ParameterPhrase ts parameters rest ↔
      ∃ given, Bracketed ParameterPartsPhrase ts given rest ∧ parameters = given.map ParameterParts.parameter := by
  rw [parameterPhrase_eq, bracketed_map]
  rfl

theorem announcedThrows_iff {t : Token} {texts : Option (List String)} :
    Announced t (CommaSeparated TypePhrase) ts texts rest ↔
      ∃ given, Announced t (CommaSeparated ReferencePhrase) ts given rest ∧ texts = clauseTexts given := by
  rw [typePhrase_eq, commaSeparated_map, announced_map]
  rfl

/-- **A line is read as a method of an annotation type just when it is written with parts that tell the method.** -/
theorem method_iff_parts {signature : MethodSignature} :
    method true ts = .ok signature ↔ ∃ parts, ElementLine ts parts ∧ signature = parts.signature := by
  rw [method_eq_ok]
  constructor
  · rintro ⟨annotations, words, arguments, typed, bracketed, throwsClause, ⟨default⟩, are⟩
    obtain ⟨r, result, rfl⟩ := resultPhrase_iff.mp typed
    obtain ⟨given, parameters, rfl⟩ := bracketedParameters_iff.mp bracketed
    obtain ⟨thrown, throws, rfl⟩ := announcedThrows_iff.mp throwsClause
    obtain ⟨tokens, value, rfl⟩ := announcedValue_iff.mp default
    rw [are.eq_modifierSet]
    exact ⟨_, @ElementLine.line ⟨_, _, _, r, _, given, thrown, tokens⟩ _ _ _ _ _ _ _ annotations words arguments result
      parameters throws value, rfl⟩
  · rintro ⟨parts, ⟨annotations, words, arguments, result, parameters, throws, value⟩, rfl⟩
    have result := resultPhrase_iff.mpr ⟨_, result, rfl⟩
    have parameters := bracketedParameters_iff.mpr ⟨_, parameters, rfl⟩
    have throws := announcedThrows_iff.mpr ⟨_, throws, rfl⟩
    have value := announcedValue_iff.mpr ⟨_, value, rfl⟩
    exact .line annotations words arguments result parameters throws (.element value) modifiersAre_modifierSet

/-! ## Fields -/

/-- The parts of a field. -/
structure FieldParts where
  kind : FieldKind
  annotations : List String
  words : List String
  type : Reference
  name : String
  value : Option (List Token)

/-- What the field declares. -/
def FieldParts.signature (parts : FieldParts) : FieldSignature where
  modifiers := modifierSet parts.kind.keyword parts.annotations parts.words
  annotations := parts.annotations
  type := parts.type.text
  name := parts.name
  value := parts.value.map spaced

/-- The tokens of a line that declares a field, and its parts. -/
inductive FieldLine : List Token → FieldParts → Prop where
  | line {parts : FieldParts} {annotated modified typed valued : List Token} :
    AnnotationPhrases annotated parts.annotations modified → Words modifierWords modified parts.words typed →
      ReferencePhrase typed parts.type (.word parts.name :: valued) →
      Announced (.punct '=') (ValueTokens [.punct ';']) valued parts.value [.punct ';'] →
      FieldLine (.word parts.kind.keyword :: annotated) parts

theorem fieldKind_token_injective (a b : FieldKind) (same : a.token = b.token) : a = b := by
  cases a <;> cases b <;> first | rfl | exact absurd same (by decide)

theorem type_iff_reference {text : String} :
    type ts = .ok (text, rest) ↔ ∃ r, ReferencePhrase ts r rest ∧ text = r.text := by
  rw [type_eq_ok, typePhrase_eq]
  rfl

theorem valueAfter_iff_tokens {announced : Token} {terminators : List Token} {text : Option String} :
    valueAfter announced terminators ts = .ok (text, rest) ↔
      ∃ tokens, Announced announced (ValueTokens terminators) ts tokens rest ∧ text = tokens.map spaced := by
  rw [valueAfter_eq_ok, announcedValue_iff]

/-- **A line is read as a field just when it is written with parts that tell the field.** -/
theorem field_iff_parts {signature : FieldSignature} :
    field ts = .ok signature ↔ ∃ parts, FieldLine ts parts ∧ signature = parts.signature := by
  constructor
  · intro read
    obtain ⟨⟨kind, annotated⟩, chosen, read⟩ := bind_eq_ok.mp read
    obtain ⟨⟨annotations, modified⟩, annotationsRead, read⟩ := bind_eq_ok.mp read
    obtain ⟨⟨type, named⟩, typeRead, read⟩ := bind_eq_ok.mp read
    obtain ⟨⟨name, valued⟩, nameRead, read⟩ := bind_eq_ok.mp read
    obtain ⟨⟨value, ended⟩, valueRead, read⟩ := bind_eq_ok.mp read
    obtain ⟨left, endRead, read⟩ := bind_eq_ok.mp read
    obtain ⟨_, finished, read⟩ := bind_eq_ok.mp read
    cases pure_eq_ok.mp read
    dsimp only at *
    rw [finish_eq_ok.mp finished] at endRead
    rw [expect_eq_ok.mp endRead] at valueRead
    rw [word_eq_ok.mp nameRead] at typeRead
    obtain ⟨r, reference, rfl⟩ := type_iff_reference.mp typeRead
    obtain ⟨tokens, valuePhrase, rfl⟩ := valueAfter_iff_tokens.mp valueRead
    have listed : kind ∈ FieldKind.all := by cases kind <;> decide
    have keyword : kind.token = Token.word kind.keyword := rfl
    rw [(choose_eq_ok fieldKind_token_injective listed).mp chosen, keyword]
    exact ⟨_, @FieldLine.line ⟨kind, annotations, _, r, name, tokens⟩ _ _ _ _ (annotations_eq_ok.mp annotationsRead)
      (wordsAmong_eq.mp rfl) reference valuePhrase, rfl⟩
  · rintro ⟨parts, ⟨annotations, words, type, value⟩, rfl⟩
    have listed : parts.kind ∈ FieldKind.all := by cases parts.kind <;> decide
    have keyword : Token.word parts.kind.keyword = parts.kind.token := rfl
    rw [keyword]
    refine bind_eq_ok.mpr ⟨_, (choose_eq_ok fieldKind_token_injective listed).mpr rfl, ?_⟩
    refine bind_eq_ok.mpr ⟨_, annotations_eq_ok.mpr annotations, ?_⟩
    dsimp only
    rw [wordsAmong_eq.mpr words]
    refine bind_eq_ok.mpr ⟨_, type_iff_reference.mpr ⟨_, type, rfl⟩, ?_⟩
    refine bind_eq_ok.mpr ⟨_, word_eq_ok.mpr rfl, ?_⟩
    refine bind_eq_ok.mpr ⟨_, valueAfter_iff_tokens.mpr ⟨_, value, rfl⟩, ?_⟩
    refine bind_eq_ok.mpr ⟨_, expect_eq_ok.mpr rfl, ?_⟩
    exact bind_eq_ok.mpr ⟨(), rfl, rfl⟩

end SignatureLint.Grammar

namespace SignatureLint

/-! ## Lines of a dump -/

/-- Where a grammar reads what parts tell, a line that is read has parts, and what is read is what any of its parts
tell. -/
theorem Line.parts_of_read {α π : Type} {grammar : List Token → Except Mismatch α} {Written : List Token → π → Prop}
    {meaning : π → α} (told : ∀ {ts a}, grammar ts = .ok a ↔ ∃ parts, Written ts parts ∧ a = meaning parts)
    {line : Line} {a : α} (read : (line.tokens >>= readTokens grammar) = .ok a) :
    ∃ tokens, tokenize line.text = .ok tokens ∧ (∃ parts, Written tokens parts) ∧
      ∀ parts, Written tokens parts → a = meaning parts := by
  obtain ⟨tokens, scanned, said⟩ := Grammar.bind_eq_ok.mp read
  obtain ⟨parts, written, -⟩ := told.mp (mapError_eq_ok.mp said)
  refine ⟨tokens, mapError_eq_ok.mp scanned, ⟨parts, written⟩, fun parts written => ?_⟩
  exact Except.ok.inj ((mapError_eq_ok.mp said).symm.trans (told.mpr ⟨parts, written, rfl⟩))

end SignatureLint
