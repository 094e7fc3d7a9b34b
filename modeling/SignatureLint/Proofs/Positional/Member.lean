import SignatureLint.Proofs.Positional.Header

/-!
# Members in both formats

Format 1 tells a member by the places of its words. It reads a method of an annotation type, or a field, as format 2
does, if it knows the modifiers (`IsPositionalMethod`, `IsPositionalField`), takes no other word for one, and finds
nothing that format 2 alone has: words of types that go on, marks of nullability, and parameters that vary in number
by a keyword or have defaults. Each step of format 1 reads what is left of the phrase that format 2 reads there, so
the two readings are compared step by step (`memberRead_positional`).
-/

namespace SignatureLint

namespace Positional

open Grammar

variable {ts rest : List Token}

/-! ## Types -/

/-- What lets format 1 read a type: its name is one word, and no mark of nullability is among its suffixes. -/
structure IsPositionalType (r : Reference) : Prop where
  undotted : Undotted r
  unmarked : ∀ mark ∈ nullabilityMarks, mark ∉ r.suffixes

theorem dimensions_append {arrays : List Token} (all : ∀ t ∈ arrays, t = .array) (ends : rest.head? ≠ some .array) :
    dimensions (arrays ++ rest) = (arrays.count .array, rest) := by
  induction arrays with
  | nil =>
    rw [List.nil_append]
    unfold dimensions
    split
    next => exact absurd rfl ends
    next => rfl
  | cons t arrays ih =>
    rw [all t List.mem_cons_self, List.cons_append, dimensions, ih fun u mem => all u (List.mem_cons_of_mem _ mem),
      List.count_cons_self]

/-- What is left of a type is read as the same type. -/
theorem survives_type :
    Survives ReferencePhrase (fun ts text rest => type ts = .ok (text, rest)) Reference.text IsPositionalType := by
  intro ts r rest written positional starts
  obtain ⟨name, words, plain⟩ := plainTokens_undotted written positional.undotted
  obtain ⟨_, suffixes⟩ := written.suffixTokens
  have arrays : ∀ t ∈ r.suffixes, t = .array := by
    intro t mem
    rcases List.mem_cons.mp (suffixes.mem t mem) with array | mark
    · exact array
    · exact absurd mem (positional.unmarked t mark)
  have ends : (plainTokens 0 rest).head? ≠ some .array := by
    rw [starts.head?_eq]
    exact suffixes.ends .array (by decide)
  rw [plain, type, word]
  simp [Except.map, dimensions_append arrays ends, Reference.text, words, String.join]

/-! ## Parameters -/

/-- What lets format 1 read a parameter: it is not announced by the word `vararg`, has a type that format 1 reads with
no mark behind it, and no default. -/
structure IsPositionalParameter (p : ParameterParts) : Prop where
  vararg : p.vararg = false
  type : IsPositionalType p.type
  unmarked : p.mark = none
  value : p.value = none

/-- The parameter as format 1 reads it. -/
def parameterOf (p : ParameterParts) : Parameter := { p.parameter with annotations := [], value := none }

/-- What both formats read of a parameter is the same. -/
theorem map_parameterOf {α : Type} (f : Parameter → α) (parameters : List ParameterParts)
    (alike : ∀ p, f (parameterOf p) = f p.parameter) :
    (parameters.map parameterOf).map f = (parameters.map ParameterParts.parameter).map f := by
  rw [List.map_map, List.map_map]
  exact List.map_congr_left fun p _ => alike p

theorem parameterName_plainTokens {name : Option String} (written : OptionalName ts name rest)
    (starts : StartsPlain rest) : parameterName (plainTokens 0 ts) = (name, plainTokens 0 rest) := by
  cases written with
  | given => rw [plainTokens_word, parameterName]
  | none noWord =>
    unfold parameterName
    split
    next name left same =>
      refine absurd ?_ (noWord name)
      rw [← starts.head?_eq, same]
      rfl
    next => rfl

/-- What is left of a parameter is read as a parameter. -/
theorem survives_parameter :
    Survives ParameterPartsPhrase (fun ts p rest => parameter ts = .ok (p, rest)) parameterOf
      IsPositionalParameter := by
  rintro _ p _ @⟨_, ts, annotated, typed, dotted, marked, named, valued, rest, vararg, annotations, written, dots, mark,
    name, value⟩ positional starts
  obtain ⟨noVararg, type, unmarked, noValue⟩ := positional
  rw [noVararg] at vararg
  rw [unmarked] at mark
  rw [noValue] at value
  obtain _ | _ := vararg
  obtain _ | _ := mark
  obtain _ | _ := value
  have startsNamed := starts.of_optionalName name
  have ellipsis : IsPlain .ellipsis := by decide
  have typeRead := survives_type _ _ _ written type (startsNamed.of_optionalToken ellipsis dots)
  have dotsRead := takeIf_eq.mpr (optionalToken_plainTokens ellipsis startsNamed dots)
  have nameRead := parameterName_plainTokens name starts
  rw [plainTokens_annotations annotations, parameter, typeRead]
  simp [Except.map, skipIf, dotsRead, nameRead, parameterOf, ParameterParts.parameter]

/-! ## Parts of lines -/

theorem plainTokens_semicolon : plainTokens 0 [.punct ';'] = [.punct ';'] := by
  rw [plainTokens_cons (by decide), plainTokens_nil]

/-- Modifiers that format 1 has as well are read alike, if what is left of the rest does not start with one. -/
theorem wordsAmong_plainTokens {allowed texts : List String} (written : Words modifierWords ts texts rest)
    (all : ∀ text ∈ texts, text ∈ allowed) {first : String} (next : (plainTokens 0 rest).head? = some (.word first))
    (ends : first ∉ allowed) : wordsAmong allowed (plainTokens 0 ts) = (texts, plainTokens 0 rest) := by
  refine wordsAmong_eq.mpr ?_
  induction written with
  | more _ _ ih =>
    rw [plainTokens_word]
    exact .more (all _ List.mem_cons_self) (ih (fun text mem => all text (List.mem_cons_of_mem _ mem)) next)
  | done =>
    refine .done fun text mem same => ends ?_
    rw [next] at same
    cases same
    exact mem

/-! ## Constructors and methods -/

/-- The words that follow the modifiers of a method: those of its type, or its name if it has none. -/
def leadingWords (parts : MethodParts) : List String := (parts.result.map Reference.words).getD [parts.name]

/-- What lets format 1 read a method: it has the modifiers, the word behind them is none, and the types, parameters and
default are such that format 1 can read them. -/
structure IsPositionalMethod (parts : MethodParts) : Prop where
  words : ∀ word ∈ parts.words, word ∈ methodModifiers
  first : ∀ word ∈ (leadingWords parts).head?, word ∉ methodModifiers
  result : ∀ r ∈ parts.result, IsPositionalType r
  parameters : ∀ p ∈ parts.parameters, IsPositionalParameter p
  throws : ∀ references ∈ parts.throws, ∀ r ∈ references, IsPositionalType r
  value : ∀ tokens ∈ parts.value, ∀ t ∈ tokens, IsPlain t

/-- What a method declares as format 1 reads it. -/
def methodOf (parts : MethodParts) : MethodSignature :=
  { parts.signature with
    modifiers := modifierSet parts.kind.keyword [] parts.words
    annotations := []
    parameters := parts.parameters.map parameterOf }

theorem resultType_plainTokens {kind : MethodKind} {result : Option Reference}
    (written : ResultReference kind ts result rest) (positional : ∀ r ∈ result, IsPositionalType r)
    (starts : StartsPlain rest) :
    resultType typeElement kind (plainTokens 0 ts) =
      .ok ((result.map Reference.text).getD "ctor", plainTokens 0 rest) := by
  cases written with
  | constructor => rfl
  | method reference => exact survives_type _ _ _ reference (positional _ rfl) starts

/-- What is left after the modifiers starts with the first word of the type, or with the name. -/
theorem head?_plainTokens_result {parts : MethodParts}
    (written : ResultReference parts.kind ts parts.result (.word parts.name :: rest))
    (positional : ∀ r ∈ parts.result, IsPositionalType r) :
    ∃ first ∈ (leadingWords parts).head?, (plainTokens 0 ts).head? = some (.word first) := by
  obtain ⟨kind, _, _, result, name, _, _, _⟩ := parts
  cases written with
  | constructor => exact ⟨name, rfl, by rw [plainTokens_word]; rfl⟩
  | @method _ _ r reference =>
    obtain ⟨first, words, plain⟩ := plainTokens_undotted reference (positional r rfl).undotted
    refine ⟨first, ?_, by rw [plain]; rfl⟩
    rw [leadingWords, Option.map_some, Option.getD_some, words]
    rfl

/-- What is left of the line of a method is read as the method. -/
theorem method_plainTokens {parts : MethodParts} (written : ElementLine ts parts)
    (positional : IsPositionalMethod parts) : method (plainTokens 0 ts) = .ok (methodOf parts) := by
  obtain @⟨_, annotated, modified, generic, typed, bracketed, thrown, ended, annotations, words, arguments, result,
    parameters, throws, value⟩ := written
  have semicolon : StartsPlain [.punct ';'] := startsPlain_cons (by decide)
  have startsEnded := semicolon.of_announced (isPlain_word "default") value
  have listed : parts.kind ∈ MethodKind.all := by cases parts.kind <;> decide
  obtain ⟨first, mem, next⟩ := head?_plainTokens_result result positional.result
  rw [← plainTokens_optionalGroup arguments] at next
  have wordsRead := wordsAmong_plainTokens words positional.words next (positional.first first mem)
  have resultRead := resultType_plainTokens result positional.result (startsPlain_cons (isPlain_word _))
  have bracketed := survives_parameter.bracketed nofun parameters positional.parameters
  have thrown := survives_type.commaSeparated.announced (isPlain_word "throws") _ _ _ throws positional.throws
    startsEnded
  have default := (survives_value _).announced (isPlain_word "default") _ _ _ value positional.value semicolon
  rw [plainTokens_semicolon] at default
  rw [plainTokens_word, plainTokens_annotations annotations]
  refine bind_eq_ok.mpr ⟨_, (choose_eq_ok methodKind_token_injective listed).mpr rfl, ?_⟩
  dsimp only
  rw [wordsRead, plainTokens_optionalGroup arguments]
  refine bind_eq_ok.mpr ⟨_, resultRead, ?_⟩
  rw [plainTokens_word]
  refine bind_eq_ok.mpr ⟨_, word_eq_ok.mpr rfl, ?_⟩
  refine bind_eq_ok.mpr ⟨_, (bracketed_eq_ok fun _ => Iff.rfl).mpr bracketed, ?_⟩
  refine bind_eq_ok.mpr ⟨_, (clause_eq_ok Iff.rfl).mpr ⟨_, thrown, rfl⟩, ?_⟩
  refine bind_eq_ok.mpr ⟨_, valueAfter_eq_ok.mpr default, ?_⟩
  refine bind_eq_ok.mpr ⟨_, expect_eq_ok.mpr rfl, ?_⟩
  exact bind_eq_ok.mpr ⟨(), rfl, rfl⟩

/-! ## Fields -/

/-- What lets format 1 read a field, as for a method. -/
structure IsPositionalField (parts : FieldParts) : Prop where
  words : ∀ word ∈ parts.words, word ∈ fieldModifiers
  first : ∀ word ∈ parts.type.words.head?, word ∉ fieldModifiers
  type : IsPositionalType parts.type
  value : ∀ tokens ∈ parts.value, ∀ t ∈ tokens, IsPlain t

/-- What a field declares as format 1 reads it. -/
def fieldOf (parts : FieldParts) : FieldSignature :=
  { parts.signature with
    modifiers := modifierSet parts.kind.keyword [] parts.words
    annotations := [] }

/-- What is left of the line of a field is read as the field. -/
theorem field_plainTokens {parts : FieldParts} (written : FieldLine ts parts) (positional : IsPositionalField parts) :
    field (plainTokens 0 ts) = .ok (fieldOf parts) := by
  obtain @⟨_, annotated, modified, typed, valued, annotations, words, type, value⟩ := written
  have semicolon : StartsPlain [.punct ';'] := startsPlain_cons (by decide)
  have listed : parts.kind ∈ FieldKind.all := by cases parts.kind <;> decide
  obtain ⟨first, typeWords, plain⟩ := plainTokens_undotted type positional.type.undotted
  have wordsRead := wordsAmong_plainTokens words positional.words (by rw [plain]; rfl)
    (positional.first first (by rw [typeWords]; rfl))
  have typeRead := survives_type _ _ _ type positional.type (startsPlain_cons (isPlain_word _))
  have value := (survives_value _).announced (by decide) _ _ _ value positional.value semicolon
  rw [plainTokens_semicolon] at value
  rw [plainTokens_word, plainTokens_annotations annotations]
  refine bind_eq_ok.mpr ⟨_, (choose_eq_ok fieldKind_token_injective listed).mpr rfl, ?_⟩
  dsimp only
  rw [wordsRead]
  refine bind_eq_ok.mpr ⟨_, typeRead, ?_⟩
  rw [plainTokens_word]
  refine bind_eq_ok.mpr ⟨_, word_eq_ok.mpr rfl, ?_⟩
  refine bind_eq_ok.mpr ⟨_, valueAfter_eq_ok.mpr value, ?_⟩
  refine bind_eq_ok.mpr ⟨_, expect_eq_ok.mpr rfl, ?_⟩
  exact bind_eq_ok.mpr ⟨(), rfl, rfl⟩

end Positional

/-! ## Lines of a dump -/

/-- What the line of a method declares in format 1 and in format 2. -/
structure MethodSignature.ReadsAs (n m : MethodSignature) : Prop where
  kind : n.kind = m.kind
  modifiers : SameModifiers n.modifiers m.modifiers m.annotations
  type : n.type = m.type
  name : n.name = m.name
  parameters : n.parameters.map (fun p => (p.type, p.name)) = m.parameters.map fun p => (p.type, p.name)
  throws : n.throws = m.throws
  value : n.value = m.value
  ident : n.ident = m.ident

/-- What the line of a field declares in format 1 and in format 2. Its kind is among its modifiers. -/
structure FieldSignature.ReadsAs (g f : FieldSignature) : Prop where
  kind : ∀ kind : FieldKind, g.modifiers.has kind.keyword = f.modifiers.has kind.keyword
  modifiers : SameModifiers g.modifiers f.modifiers f.annotations
  type : g.type = f.type
  name : g.name = f.name
  value : g.value = f.value
  ident : g.ident = f.ident

section

variable {owner previous : Class} {line : Line} {tokens : List Token}

theorem Method.read_positional {parts : Grammar.MethodParts} (earlier : previous.format = .v1)
    (lexed : tokenize line.text = .ok tokens) (written : Grammar.ElementLine tokens parts)
    (positional : Positional.IsPositionalMethod parts) :
    Method.read previous line =
      .ok { Positional.methodOf parts with owner := previous.fullname, origin := line.origin } := by
  refine map_eq_ok.mpr ⟨Positional.methodOf parts, ?_, rfl⟩
  rw [earlier]
  refine Grammar.bind_eq_ok.mpr ⟨_, Line.plainTokens_eq lexed, ?_⟩
  exact mapError_eq_ok.mpr (Positional.method_plainTokens written positional)

theorem Field.read_positional {parts : Grammar.FieldParts} (earlier : previous.format = .v1)
    (lexed : tokenize line.text = .ok tokens) (written : Grammar.FieldLine tokens parts)
    (positional : Positional.IsPositionalField parts) :
    Field.read previous line =
      .ok { Positional.fieldOf parts with owner := previous.fullname, origin := line.origin } := by
  refine map_eq_ok.mpr ⟨Positional.fieldOf parts, ?_, rfl⟩
  rw [earlier]
  refine Grammar.bind_eq_ok.mpr ⟨_, Line.plainTokens_eq lexed, ?_⟩
  exact mapError_eq_ok.mpr (Positional.field_plainTokens written positional)

theorem Positional.readsAs_methodOf (parts : Grammar.MethodParts) : (methodOf parts).ReadsAs parts.signature where
  kind := rfl
  modifiers := rfl
  type := rfl
  name := rfl
  parameters := map_parameterOf _ _ fun _ => rfl
  throws := rfl
  value := rfl
  ident := by
    have types : (methodOf parts).parameterTypes = parts.signature.parameterTypes := map_parameterOf _ _ fun _ => rfl
    rw [MethodSignature.ident, types]
    rfl

theorem Positional.readsAs_fieldOf (parts : Grammar.FieldParts) : (fieldOf parts).ReadsAs parts.signature where
  kind := by
    have same : SameModifiers (fieldOf parts).modifiers parts.signature.modifiers parts.annotations := rfl
    exact fun kind => same.has_eq (by cases kind <;> decide)
  modifiers := rfl
  type := rfl
  name := rfl
  value := rfl
  ident := rfl

/-- **A method of an annotation type, or a field, that format 1 can tell is read alike in both formats.** Whatever
format 2 reads there has parts, and these tell whether format 1 can. -/
theorem memberRead_positional (current : owner.format = .v2) (earlier : previous.format = .v1) :
    (∀ m, owner.isAnnotationType = true → Method.read owner line = .ok m →
      ∃ tokens, tokenize line.text = .ok tokens ∧ (∃ parts, Grammar.ElementLine tokens parts) ∧
        ∀ parts, Grammar.ElementLine tokens parts → m.toMethodSignature = parts.signature ∧
          (Positional.IsPositionalMethod parts →
            ∃ n, Method.read previous line = .ok n ∧ n.ReadsAs m.toMethodSignature)) ∧
    ∀ f, Field.read owner line = .ok f →
      ∃ tokens, tokenize line.text = .ok tokens ∧ (∃ parts, Grammar.FieldLine tokens parts) ∧
        ∀ parts, Grammar.FieldLine tokens parts → f.toFieldSignature = parts.signature ∧
          (Positional.IsPositionalField parts →
            ∃ g, Field.read previous line = .ok g ∧ g.ReadsAs f.toFieldSignature) := by
  constructor
  · intro m elements read
    obtain ⟨signature, said, rfl⟩ := map_eq_ok.mp read
    rw [current, elements] at said
    obtain ⟨tokens, lexed, exists_parts, told⟩ := Line.parts_of_read Grammar.method_iff_parts said
    refine ⟨tokens, lexed, exists_parts, fun parts written => ⟨told parts written, fun positional => ?_⟩⟩
    refine ⟨_, Method.read_positional earlier lexed written positional, ?_⟩
    rw [told parts written]
    exact Positional.readsAs_methodOf parts
  · intro f read
    obtain ⟨signature, said, rfl⟩ := map_eq_ok.mp read
    rw [current] at said
    obtain ⟨tokens, lexed, exists_parts, told⟩ := Line.parts_of_read Grammar.field_iff_parts said
    refine ⟨tokens, lexed, exists_parts, fun parts written => ⟨told parts written, fun positional => ?_⟩⟩
    refine ⟨_, Field.read_positional earlier lexed written positional, ?_⟩
    rw [told parts written]
    exact Positional.readsAs_fieldOf parts

end

/-- The annotation type of `elementOwner`, in format 1. -/
def earlierOwner : Class := { elementOwner with format := .v1 }

/-- The line of an element with type parameters, annotations with arguments and a default. -/
def plainElementLine : Line where
  number := 4
  text := ("    method @Deprecated public <T extends A<B>> @C x.D<E>[] f(@F(g) int... xs, T) throws x.G " ++
    "default \";\";").toList
  blame := none

def plainElementTokens : List Token := [
  .word "method", .atSign, .word "Deprecated", .word "public", .punct '<', .word "T", .word "extends", .word "A",
  .punct '<', .word "B", .punct '>', .punct '>', .atSign, .word "C", .word "x.D", .punct '<', .word "E", .punct '>',
  .array, .word "f", .punct '(', .atSign, .word "F", .punct '(', .word "g", .punct ')', .word "int", .ellipsis,
  .word "xs", .punct ',', .word "T", .punct ')', .word "throws", .word "x.G", .word "default", .literal "\";\"",
  .punct ';']

def plainElementParts : Grammar.MethodParts where
  kind := .method
  annotations := ["@Deprecated"]
  words := ["public"]
  result := some ⟨["x.D"], [.array]⟩
  name := "f"
  parameters := [
    { vararg := false, annotations := ["@F"], type := ⟨["int"], []⟩, variadic := true, mark := none, name := some "xs",
      value := none },
    { vararg := false, annotations := [], type := ⟨["T"], []⟩, variadic := false, mark := none, name := none,
      value := none }]
  throws := some [⟨["x.G"], []⟩]
  value := some [.literal "\";\""]

theorem plainElement_written : Grammar.ElementLine plainElementTokens plainElementParts := by
  have annotations : Grammar.AnnotationPhrases (plainElementTokens.drop 1) ["@Deprecated"]
      (plainElementTokens.drop 3) := .more (.named (.none nofun)) (.done nofun)
  have generic : Grammar.OptionalGroup (.punct '<') (.punct '>') (plainElementTokens.drop 4)
      (plainElementTokens.drop 12) := (Grammar.skipGroup_eq_ok (by decide)).mp rfl
  have result : Grammar.ReferencePhrase (plainElementTokens.drop 12) ⟨["x.D"], [.array]⟩
      (plainElementTokens.drop 19) :=
    .reference (.more (.named (.none nofun)) (.done nofun)) (.whole (by decide))
      ((Grammar.skipGroup_eq_ok (by decide)).mp rfl) (.more (by decide) (.done (by decide)))
  have many : Grammar.ReferencePhrase (plainElementTokens.drop 26) ⟨["int"], []⟩ (plainElementTokens.drop 27) :=
    Grammar.referencePhrase_word (by decide) (by decide)
  have one : Grammar.ReferencePhrase (plainElementTokens.drop 30) ⟨["T"], []⟩ (plainElementTokens.drop 31) :=
    Grammar.referencePhrase_word (by decide) (by decide)
  have thrown : Grammar.ReferencePhrase (plainElementTokens.drop 33) ⟨["x.G"], []⟩ (plainElementTokens.drop 34) :=
    Grammar.referencePhrase_word (by decide) (by decide)
  have annotated : Grammar.AnnotationPhrases (plainElementTokens.drop 21) ["@F"] (plainElementTokens.drop 26) :=
    .more (.named ((Grammar.skipGroup_eq_ok (by decide)).mp rfl)) (.done nofun)
  have first : Grammar.ParameterPartsPhrase (plainElementTokens.drop 21)
      ⟨false, ["@F"], ⟨["int"], []⟩, true, none, some "xs", none⟩ (plainElementTokens.drop 29) :=
    .parameter (.none nofun) annotated many .given (.none (by decide)) .given (.none nofun)
  have second : Grammar.ParameterPartsPhrase (plainElementTokens.drop 30)
      ⟨false, [], ⟨["T"], []⟩, false, none, none, none⟩ (plainElementTokens.drop 31) :=
    .parameter (.none nofun) (.done nofun) one (.none nofun) (.none (by decide)) (.none nofun) (.none nofun)
  have value : Grammar.ValueTokens [.punct ';'] (plainElementTokens.drop 35) [.literal "\";\""] [.punct ';'] :=
    Grammar.valueTokens_of_eq_some (by decide) rfl
  exact @Grammar.ElementLine.line plainElementParts _ _ _ _ _ _ _ annotations (.more (by decide) (.done (by decide)))
    generic (.method result) (.some nofun (.more first (.last second)))
    (.given (.elements thrown (.done nofun))) (.given value)

/-- The element that the line declares in format 2. -/
def plainElement : Method :=
  { plainElementParts.signature with owner := "p.Range", origin := plainElementLine.origin }

/-- The line of a field with annotations, an array of generic elements and a value in brackets. -/
def plainFieldLine : Line where
  number := 5
  text := "    field @Deprecated public static @A(b) x.B<C<D>>[] d = (1 + \"<\");".toList
  blame := none

def plainFieldTokens : List Token := [
  .word "field", .atSign, .word "Deprecated", .word "public", .word "static", .atSign, .word "A", .punct '(',
  .word "b", .punct ')', .word "x.B", .punct '<', .word "C", .punct '<', .word "D", .punct '>', .punct '>', .array,
  .word "d", .punct '=', .punct '(', .word "1", .punct '+', .literal "\"<\"", .punct ')', .punct ';']

def plainFieldParts : Grammar.FieldParts where
  kind := .field
  annotations := ["@Deprecated"]
  words := ["public", "static"]
  type := ⟨["x.B"], [.array]⟩
  name := "d"
  value := some [.punct '(', .word "1", .punct '+', .literal "\"<\"", .punct ')']

theorem plainField_written : Grammar.FieldLine plainFieldTokens plainFieldParts := by
  have annotations : Grammar.AnnotationPhrases (plainFieldTokens.drop 1) ["@Deprecated"] (plainFieldTokens.drop 3) :=
    .more (.named (.none nofun)) (.done nofun)
  have annotated : Grammar.AnnotationPhrases (plainFieldTokens.drop 5) ["@A"] (plainFieldTokens.drop 10) :=
    .more (.named ((Grammar.skipGroup_eq_ok (by decide)).mp rfl)) (.done nofun)
  have type : Grammar.ReferencePhrase (plainFieldTokens.drop 5) ⟨["x.B"], [.array]⟩ (plainFieldTokens.drop 18) :=
    .reference annotated (.whole (by decide)) ((Grammar.skipGroup_eq_ok (by decide)).mp rfl)
      (.more (by decide) (.done (by decide)))
  have value : Grammar.ValueTokens [.punct ';'] (plainFieldTokens.drop 20)
      [.punct '(', .word "1", .punct '+', .literal "\"<\"", .punct ')'] [.punct ';'] :=
    Grammar.valueTokens_of_eq_some (by decide) rfl
  exact @Grammar.FieldLine.line plainFieldParts _ _ _ _ annotations
    (.more (by decide) (.more (by decide) (.done (by decide)))) type (.given value)

/-- The field that the line declares in format 2. -/
def plainField : Field := { plainFieldParts.signature with owner := "p.Range", origin := plainFieldLine.origin }

/-- Both lines are read in format 2, and format 1 can tell them. -/
theorem memberRead_positional_plain :
    Method.read elementOwner plainElementLine = .ok plainElement ∧
      (∃ n, Method.read earlierOwner plainElementLine = .ok n ∧ n.ReadsAs plainElement.toMethodSignature) ∧
      Field.read elementOwner plainFieldLine = .ok plainField ∧
      ∃ g, Field.read earlierOwner plainFieldLine = .ok g ∧ g.ReadsAs plainField.toFieldSignature := by
  have methodLexed : tokenize plainElementLine.text = .ok plainElementTokens :=
    Grammar.eq_ok_of_toOption (by decide +kernel)
  have fieldLexed : tokenize plainFieldLine.text = .ok plainFieldTokens := Grammar.eq_ok_of_toOption (by decide +kernel)
  have readMethod : Method.read elementOwner plainElementLine = .ok plainElement :=
    Grammar.eq_ok_of_toOption (by decide +kernel)
  have readField : Field.read elementOwner plainFieldLine = .ok plainField :=
    Grammar.eq_ok_of_toOption (by decide +kernel)
  have positionalMethod : Positional.IsPositionalMethod plainElementParts := {
    words := by decide
    first := by decide
    result := by
      rintro _ ⟨⟩
      exact ⟨by decide, by decide⟩
    parameters := by
      refine List.forall_mem_cons.mpr ⟨?_, List.forall_mem_cons.mpr ⟨?_, nofun⟩⟩
      · exact ⟨rfl, ⟨by decide, by decide⟩, rfl, rfl⟩
      · exact ⟨rfl, ⟨by decide, by decide⟩, rfl, rfl⟩
    throws := by
      rintro _ ⟨⟩ r mem
      rw [List.mem_singleton.mp mem]
      exact ⟨by decide, by decide⟩
    value := by
      rintro _ ⟨⟩
      decide }
  have positionalField : Positional.IsPositionalField plainFieldParts := {
    words := by decide
    first := by decide
    type := ⟨by decide, by decide⟩
    value := by
      rintro _ ⟨⟩
      decide }
  obtain ⟨tokens, scanned, -, told⟩ :=
    (@memberRead_positional elementOwner earlierOwner plainElementLine rfl rfl).1 plainElement rfl readMethod
  obtain rfl : plainElementTokens = tokens := Except.ok.inj (methodLexed.symm.trans scanned)
  obtain ⟨tokens', scanned', -, told'⟩ :=
    (@memberRead_positional elementOwner earlierOwner plainFieldLine rfl rfl).2 plainField readField
  obtain rfl : plainFieldTokens = tokens' := Except.ok.inj (fieldLexed.symm.trans scanned')
  exact ⟨readMethod, (told plainElementParts plainElement_written).2 positionalMethod, readField,
    (told' plainFieldParts plainField_written).2 positionalField⟩

end SignatureLint
