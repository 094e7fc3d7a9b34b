import SignatureLint.Dump.Reading
import SignatureLint.Proofs.Grammar.Type
import SignatureLint.Proofs.Token.Step

/-!
# Lines of constructors and methods as they are written

`MethodLine` is the grammar of a constructor or method in format 2: a list of tokens, and what it declares.
`method_eq_ok` says that a line is read just when its tokens are such a list, and that what is read is what
they declare; `methodRead_iff` says the same of a line of a dump. Only the owner decides whether a default may
stand there.
-/

namespace SignatureLint

namespace Grammar

/-! ## The written grammar -/

/-- A mark of nullability that may be left out. -/
inductive OptionalNullability : List Token → List Token → Prop where
  | nullable {rest : List Token} : OptionalNullability (.punct '?' :: rest) rest
  | nonNull {rest : List Token} : OptionalNullability (.punct '!' :: rest) rest
  | none {ts : List Token} :
    ts.head? ≠ some (.punct '?') → ts.head? ≠ some (.punct '!') → OptionalNullability ts ts

/-- A name that may be left out. -/
inductive OptionalName : Phrase (Option String) where
  | given {name : String} {rest : List Token} : OptionalName (.word name :: rest) (some name) rest
  | none {ts : List Token} : (∀ name, ts.head? ≠ some (.word name)) → OptionalName ts none ts

/-- A parameter. Three dots belong to its type. -/
inductive ParameterPhrase : Phrase Parameter where
  | parameter {ts annotated typed dotted marked named valued rest : List Token} {vararg variadic : Bool}
    {annotations : List String} {type : String} {name value : Option String} :
    OptionalToken (.word "vararg") ts vararg annotated → AnnotationPhrases annotated annotations typed →
      TypePhrase typed type dotted → OptionalToken .ellipsis dotted variadic marked →
      OptionalNullability marked named → OptionalName named name valued →
      Announced (.punct '=') (Expression [.punct ',', .punct ')']) valued value rest →
      ParameterPhrase ts { type := if variadic then type ++ "..." else type, name, annotations, value } rest

/-- Phrases with commas between them, up to the closing bracket. -/
inductive UntilBracket {α : Type} (p : Phrase α) : Phrase (List α) where
  | last {ts rest : List Token} {a : α} : p ts a (.punct ')' :: rest) → UntilBracket p ts [a] rest
  | more {ts left rest : List Token} {a : α} {as : List α} :
    p ts a (.punct ',' :: left) → UntilBracket p left as rest → UntilBracket p ts (a :: as) rest

/-- Phrases in brackets, with commas between them; there may be none. -/
inductive Bracketed {α : Type} (p : Phrase α) : Phrase (List α) where
  | none {rest : List Token} : Bracketed p (.punct '(' :: .punct ')' :: rest) [] rest
  | some {ts rest : List Token} {as : List α} :
    ts.head? ≠ some (.punct ')') → UntilBracket p ts as rest → Bracketed p (.punct '(' :: ts) as rest

/-- One phrase or more, with commas between them. -/
inductive CommaSeparated {α : Type} (p : Phrase α) : Phrase (List α) where
  | elements {ts left rest : List Token} {first : α} {more : List α} :
    p ts first left → Repeated (.punct ',') p left more rest → CommaSeparated p ts (first :: more) rest

/-- The type of a result, which a constructor does not write. -/
inductive ResultPhrase : MethodKind → Phrase String where
  | constructor {ts : List Token} : ResultPhrase .constructor ts "ctor" ts
  | method {ts rest : List Token} {type : String} : TypePhrase ts type rest → ResultPhrase .method ts type rest

/-- The default of an element of an annotation type. In any other type no default is written. -/
inductive DefaultPhrase : Bool → Phrase (Option String) where
  | element {ts rest : List Token} {value : Option String} :
    Announced (.word "default") (Expression [.punct ';']) ts value rest → DefaultPhrase true ts value rest
  | other {ts : List Token} : DefaultPhrase false ts none ts

/-- The tokens of a line that declares a constructor or method, and what they declare. -/
inductive MethodLine (inAnnotationType : Bool) : List Token → MethodSignature → Prop where
  | line {kind : MethodKind} {modifiers : Modifiers} {annotations words : List String} {type name : String}
    {parameters : List Parameter} {throws : Option (List String)} {value : Option String}
    {annotated modified generic typed bracketed thrown ended : List Token} :
    AnnotationPhrases annotated annotations modified → Words modifierWords modified words generic →
      OptionalGroup (.punct '<') (.punct '>') generic typed → ResultPhrase kind typed type (.word name :: bracketed) →
      Bracketed ParameterPhrase bracketed parameters thrown →
      Announced (.word "throws") (CommaSeparated TypePhrase) thrown throws ended →
      DefaultPhrase inAnnotationType ended value [.punct ';'] →
      ModifiersAre modifiers kind.keyword annotations words →
      MethodLine inAnnotationType (.word kind.keyword :: annotated)
        { kind, modifiers, annotations, type, name, parameters, throws := throws.getD [], value }

/-! ## Sequences -/

section

variable {α : Type} {element : Element α} {p : Phrase α} {ts rest : List Token} {as : List α}

/-- A comma or the closing bracket is next: what ends an element in brackets. -/
def AtElementEnd (ts : List Token) : Prop := ts.head? = some (.punct ',') ∨ ts.head? = some (.punct ')')

theorem untilBracket_eq_ok
    (reads : ∀ {ts a rest}, AtElementEnd rest → (element.read ts = .ok (a, rest) ↔ p ts a rest)) :
    element.untilBracket ts = .ok (as, rest) ↔ UntilBracket p ts as rest := by
  constructor
  · intro read
    fun_induction Element.untilBracket element ts generalizing as with
    | case1 => cases read
    | case2 ts a left one left' closed =>
      cases read
      rcases takeIf_eq.mp closed with _ | _
      exact .last ((reads (.inr rfl)).mp one)
    | case3 => cases read
    | case4 ts a left one left' other left'' separated ih =>
      cases more : element.untilBracket left'' with
      | error => rw [more] at read; cases read
      | ok found =>
        rw [more] at read
        cases read
        rw [expect_eq_ok.mp separated] at one
        exact .more ((reads (.inl rfl)).mp one) (ih more)
  · intro written
    induction written with
    | last one =>
      rw [Element.untilBracket, (reads (.inr rfl)).mpr one]
      dsimp only
      rw [takeIf_self]
    | more one _ ih =>
      rw [Element.untilBracket, (reads (.inl rfl)).mpr one]
      dsimp only
      rw [takeIf_of_head? (by simp), expect_eq_ok.mpr rfl]
      dsimp only
      rw [ih]
      rfl

theorem bracketed_eq_ok
    (reads : ∀ {ts a rest}, AtElementEnd rest → (element.read ts = .ok (a, rest) ↔ p ts a rest)) :
    element.bracketed ts = .ok (as, rest) ↔ Bracketed p ts as rest := by
  constructor
  · intro read
    obtain ⟨left, opened, read⟩ := bind_eq_ok.mp read
    rw [expect_eq_ok.mp opened]
    rcases head?_cases (.punct ')') left with ⟨left, rfl⟩ | absent
    · rw [takeIf_self] at read
      cases pure_eq_ok.mp read
      exact .none
    · rw [takeIf_of_head? absent] at read
      exact .some absent ((untilBracket_eq_ok reads).mp read)
  · rintro (_ | ⟨absent, written⟩)
    · refine bind_eq_ok.mpr ⟨_, expect_eq_ok.mpr rfl, ?_⟩
      rw [takeIf_self]
      rfl
    · refine bind_eq_ok.mpr ⟨_, expect_eq_ok.mpr rfl, ?_⟩
      rw [takeIf_of_head? absent]
      exact (untilBracket_eq_ok reads).mpr written

variable (reads : ∀ {ts a rest}, element.read ts = .ok (a, rest) ↔ p ts a rest)

include reads

theorem afterCommas_eq_ok : element.afterCommas ts = .ok (as, rest) ↔ Repeated (.punct ',') p ts as rest := by
  constructor
  · intro read
    fun_induction Element.afterCommas element ts generalizing as with
    | case1 => cases read
    | case2 left a left' one ih =>
      cases more : element.afterCommas left' with
      | error => rw [more] at read; cases read
      | ok found =>
        rw [more] at read
        cases read
        exact .more (reads.mp one) (ih more)
    | case3 ts noComma =>
      cases read
      refine .done fun next => ?_
      obtain ⟨left, rfl⟩ := List.head?_eq_some_iff.mp next
      exact noComma left rfl
  · intro written
    induction written with
    | more one _ ih =>
      rw [Element.afterCommas, reads.mpr one]
      dsimp only
      rw [ih]
      rfl
    | @done ts absent =>
      unfold Element.afterCommas
      split
      next => exact absurd rfl absent
      next => rfl

theorem clause_eq_ok {keyword : String} :
    element.clause keyword ts = .ok (as, rest) ↔
      ∃ given, Announced (.word keyword) (CommaSeparated p) ts given rest ∧ as = given.getD [] := by
  rcases head?_cases (.word keyword) ts with ⟨left, rfl⟩ | absent
  · rw [Element.clause, takeIf_self]
    constructor
    · intro read
      obtain ⟨⟨first, left'⟩, one, read⟩ := bind_eq_ok.mp read
      obtain ⟨⟨more, left''⟩, others, read⟩ := bind_eq_ok.mp read
      cases pure_eq_ok.mp read
      exact ⟨_, .given (.elements (reads.mp one) ((afterCommas_eq_ok reads).mp others)), rfl⟩
    · rintro ⟨_, ⟨one, others⟩ | absent, rfl⟩
      · refine bind_eq_ok.mpr ⟨_, reads.mpr one, ?_⟩
        exact bind_eq_ok.mpr ⟨_, (afterCommas_eq_ok reads).mpr others, rfl⟩
      · exact absurd rfl absent
  · rw [Element.clause, takeIf_of_head? absent]
    constructor
    · intro read
      cases read
      exact ⟨none, .none absent, rfl⟩
    · rintro ⟨_, _ | _, rfl⟩
      · exact absurd rfl absent
      · rfl

end

/-! ## Parameters -/

section

variable {ts rest : List Token}

theorem skipNullability_eq : skipNullability ts = rest ↔ OptionalNullability ts rest := by
  unfold skipNullability
  split
  next left =>
    constructor
    · rintro rfl
      exact .nullable
    · rintro (_ | _ | ⟨noNullable, -⟩)
      · rfl
      · exact absurd rfl noNullable
  next left =>
    constructor
    · rintro rfl
      exact .nonNull
    · rintro (_ | _ | ⟨-, noNonNull⟩)
      · rfl
      · exact absurd rfl noNonNull
  next noNullable noNonNull =>
    constructor
    · rintro rfl
      refine .none (fun next => ?_) fun next => ?_
      · obtain ⟨left, rfl⟩ := List.head?_eq_some_iff.mp next
        exact noNullable left rfl
      · obtain ⟨left, rfl⟩ := List.head?_eq_some_iff.mp next
        exact noNonNull left rfl
    · rintro (_ | _ | _)
      · exact absurd rfl (noNullable _)
      · exact absurd rfl (noNonNull _)
      · rfl

theorem parameterType_eq_ok {text : String} :
    parameterType ts = .ok (text, rest) ↔
      ∃ dotted marked type variadic, TypePhrase ts type dotted ∧ OptionalToken .ellipsis dotted variadic marked ∧
        OptionalNullability marked rest ∧ text = if variadic then type ++ "..." else type := by
  constructor
  · intro read
    obtain ⟨⟨written, dotted⟩, typed, read⟩ := bind_eq_ok.mp read
    dsimp only at read
    split at read
    all_goals
      next marked taken =>
        cases pure_eq_ok.mp read
        exact ⟨dotted, marked, _, _, type_eq_ok.mp typed, takeIf_eq.mp taken, skipNullability_eq.mp rfl, rfl⟩
  · rintro ⟨dotted, marked, type, variadic, typed, dots, nullability, rfl⟩
    refine bind_eq_ok.mpr ⟨_, type_eq_ok.mpr typed, ?_⟩
    dsimp only
    rw [takeIf_eq.mpr dots]
    cases variadic with
    | true =>
      dsimp only
      rw [skipNullability_eq.mpr nullability]
      rfl
    | false =>
      dsimp only
      rw [skipNullability_eq.mpr nullability]
      rfl

/-- A name that is left out is told by what comes after it. -/
theorem parameterName_eq_ok {name : Option String}
    (next : name = none → rest.head? = some (.punct '=') ∨ AtElementEnd rest) :
    parameterName ts = .ok (name, rest) ↔ OptionalName ts name rest := by
  constructor
  · intro read
    unfold parameterName at read
    split at read
    · cases read
      exact .none nofun
    · cases read
      exact .none nofun
    · cases read
      exact .none nofun
    · cases named : word .name ts with
      | error => rw [named] at read; cases read
      | ok answer =>
        rw [named] at read
        cases read
        rw [word_eq_ok.mp named]
        exact .given
  · rintro (_ | absent)
    · rfl
    · rcases next rfl with equals | comma | bracket
      · obtain ⟨left, rfl⟩ := List.head?_eq_some_iff.mp equals
        rfl
      · obtain ⟨left, rfl⟩ := List.head?_eq_some_iff.mp comma
        rfl
      · obtain ⟨left, rfl⟩ := List.head?_eq_some_iff.mp bracket
        rfl

/-- A parameter in brackets is read as it is written. -/
theorem parameter_eq_ok {parameter : Parameter} (ends : AtElementEnd rest) :
    Grammar.parameter ts = .ok (parameter, rest) ↔ ParameterPhrase ts parameter rest := by
  -- what follows a name that is left out is `=`, or what ends the parameter
  have next {valued : List Token} {value : Option String}
      (valuedAfter : Announced (.punct '=') (Expression [.punct ',', .punct ')']) valued value rest) :
      valued.head? = some (.punct '=') ∨ AtElementEnd valued := by
    cases valuedAfter with
    | given => exact .inl rfl
    | none => exact .inr ends
  constructor
  · intro read
    obtain ⟨⟨annotations, typed⟩, annotated, read⟩ := bind_eq_ok.mp read
    obtain ⟨⟨text, named⟩, parameterTyped, read⟩ := bind_eq_ok.mp read
    obtain ⟨⟨name, valued⟩, nameRead, read⟩ := bind_eq_ok.mp read
    obtain ⟨⟨value, left⟩, valueRead, read⟩ := bind_eq_ok.mp read
    cases pure_eq_ok.mp read
    obtain ⟨dotted, marked, type, variadic, typePhrase, dots, nullability, rfl⟩ := parameterType_eq_ok.mp parameterTyped
    have valuePhrase := valueAfter_eq_ok.mp valueRead
    exact .parameter (takeIf_eq.mp rfl) (annotations_eq_ok.mp annotated) typePhrase dots nullability
      ((parameterName_eq_ok fun _ => next valuePhrase).mp nameRead) valuePhrase
  · rintro ⟨vararg, annotated, typed, dots, nullability, named, valued⟩
    have skipped : skipIf (.word "vararg") ts = _ := congrArg Prod.snd (takeIf_eq.mpr vararg)
    refine bind_eq_ok.mpr ⟨_, (congrArg annotations skipped).trans (annotations_eq_ok.mpr annotated), ?_⟩
    refine bind_eq_ok.mpr ⟨_, parameterType_eq_ok.mpr ⟨_, _, _, _, typed, dots, nullability, rfl⟩, ?_⟩
    refine bind_eq_ok.mpr ⟨_, (parameterName_eq_ok fun _ => next valued).mpr named, ?_⟩
    exact bind_eq_ok.mpr ⟨_, valueAfter_eq_ok.mpr valued, rfl⟩

end

/-! ## Lines -/

section

variable {ts rest : List Token}

theorem resultType_eq_ok {kind : MethodKind} {type : String} :
    resultType typeElement kind ts = .ok (type, rest) ↔ ResultPhrase kind ts type rest := by
  cases kind with
  | constructor =>
    constructor
    · intro read
      cases read
      exact .constructor
    · rintro ⟨⟩
      rfl
  | method =>
    constructor
    · intro read
      exact .method (type_eq_ok.mp read)
    · rintro (_ | typed)
      exact type_eq_ok.mpr typed

theorem elementDefault_eq_ok {inAnnotationType : Bool} {value : Option String} :
    elementDefault inAnnotationType ts = .ok (value, rest) ↔ DefaultPhrase inAnnotationType ts value rest := by
  cases inAnnotationType with
  | true =>
    constructor
    · intro read
      exact .element (valueAfter_eq_ok.mp read)
    · rintro ⟨written⟩
      exact valueAfter_eq_ok.mpr written
  | false =>
    constructor
    · intro read
      cases read
      exact .other
    · rintro ⟨⟩
      rfl

theorem methodKind_token_injective (a b : MethodKind) (same : a.token = b.token) : a = b := by
  cases a <;> cases b <;> first | rfl | exact absurd same (by decide)

/-- **A line is read as a constructor or method just when it is written as one.** -/
theorem method_eq_ok {inAnnotationType : Bool} {signature : MethodSignature} :
    method inAnnotationType ts = .ok signature ↔ MethodLine inAnnotationType ts signature := by
  have parameters {ts rest : List Token} {p : Parameter} (ends : AtElementEnd rest) :
      parameterElement.read ts = .ok (p, rest) ↔ ParameterPhrase ts p rest := parameter_eq_ok ends
  have types {ts rest : List Token} {text : String} :
      typeElement.read ts = .ok (text, rest) ↔ TypePhrase ts text rest := type_eq_ok
  constructor
  · intro read
    obtain ⟨⟨kind, annotated⟩, chosen, read⟩ := bind_eq_ok.mp read
    obtain ⟨⟨annotations, modified⟩, annotationsRead, read⟩ := bind_eq_ok.mp read
    obtain ⟨typed, skipped, read⟩ := bind_eq_ok.mp read
    obtain ⟨⟨type, named⟩, typeRead, read⟩ := bind_eq_ok.mp read
    obtain ⟨⟨name, bracketed⟩, nameRead, read⟩ := bind_eq_ok.mp read
    obtain ⟨⟨parameterList, thrown⟩, parametersRead, read⟩ := bind_eq_ok.mp read
    obtain ⟨⟨throws, defaulted⟩, throwsRead, read⟩ := bind_eq_ok.mp read
    obtain ⟨⟨value, ended⟩, valueRead, read⟩ := bind_eq_ok.mp read
    obtain ⟨left, endRead, read⟩ := bind_eq_ok.mp read
    obtain ⟨_, finished, read⟩ := bind_eq_ok.mp read
    cases pure_eq_ok.mp read
    dsimp only at *
    rw [finish_eq_ok.mp finished] at endRead
    rw [expect_eq_ok.mp endRead] at valueRead
    rw [word_eq_ok.mp nameRead] at typeRead
    obtain ⟨given, throwsPhrase, rfl⟩ := (clause_eq_ok types).mp throwsRead
    have listed : kind ∈ MethodKind.all := by cases kind <;> decide
    rw [(choose_eq_ok methodKind_token_injective listed).mp chosen]
    exact .line (annotations_eq_ok.mp annotationsRead) (wordsAmong_eq.mp rfl) ((skipGroup_eq_ok (by decide)).mp skipped)
      (resultType_eq_ok.mp typeRead) ((bracketed_eq_ok parameters).mp parametersRead) throwsPhrase
      (elementDefault_eq_ok.mp valueRead) modifiersAre_modifierSet
  · rintro @⟨kind, modifiers, annotations, words, type, name, parameterList, throws, value, annotated, modified,
      generic, typed, bracketed, thrown, ended, annotationPhrases, wordsPhrase, arguments, result, parameterPhrases,
      throwsPhrase, default, are⟩
    have listed : kind ∈ MethodKind.all := by cases kind <;> decide
    have keyword : Token.word kind.keyword = kind.token := rfl
    rw [are.eq_modifierSet, keyword]
    refine bind_eq_ok.mpr ⟨_, (choose_eq_ok methodKind_token_injective listed).mpr rfl, ?_⟩
    refine bind_eq_ok.mpr ⟨_, annotations_eq_ok.mpr annotationPhrases, ?_⟩
    dsimp only
    rw [wordsAmong_eq.mpr wordsPhrase]
    refine bind_eq_ok.mpr ⟨_, (skipGroup_eq_ok (by decide)).mpr arguments, ?_⟩
    refine bind_eq_ok.mpr ⟨_, resultType_eq_ok.mpr result, ?_⟩
    refine bind_eq_ok.mpr ⟨_, word_eq_ok.mpr rfl, ?_⟩
    refine bind_eq_ok.mpr ⟨_, (bracketed_eq_ok parameters).mpr parameterPhrases, ?_⟩
    refine bind_eq_ok.mpr ⟨_, (clause_eq_ok types).mpr ⟨throws, throwsPhrase, rfl⟩, ?_⟩
    refine bind_eq_ok.mpr ⟨_, elementDefault_eq_ok.mpr default, ?_⟩
    refine bind_eq_ok.mpr ⟨_, expect_eq_ok.mpr rfl, ?_⟩
    exact bind_eq_ok.mpr ⟨(), rfl, rfl⟩

end

end Grammar

/-! ## Lines of a dump -/

/-- **A line declares a constructor or method of a format 2 class just when its tokens are written as one.**
What it declares is what the tokens say, and only an annotation type has defaults. -/
theorem methodRead_iff {owner : Class} {line : Line} {tokens : List Token} (format : owner.format = .v2)
    (lexed : tokenize line.text = .ok tokens) (m : Method) :
    Method.read owner line = .ok m ↔
      Grammar.MethodLine owner.isAnnotationType tokens m.toMethodSignature ∧ m.owner = owner.fullname ∧
        m.origin = line.origin := by
  have read : MethodSignature.read owner.format owner.isAnnotationType line =
      readTokens (Grammar.method owner.isAnnotationType) tokens := by
    rw [format, MethodSignature.read, Line.tokens, lexed]
    rfl
  rw [Method.read, read, map_eq_ok]
  constructor
  · rintro ⟨signature, said, rfl⟩
    exact ⟨Grammar.method_eq_ok.mp (mapError_eq_ok.mp said), rfl, rfl⟩
  · rintro ⟨written, owner, origin⟩
    refine ⟨m.toMethodSignature, mapError_eq_ok.mpr (Grammar.method_eq_ok.mpr written), ?_⟩
    rw [← owner, ← origin]

/-- An annotation type in format 2. -/
def elementOwner : Class where
  modifiers := .ofList ["@interface"]
  annotations := []
  declared := "Range"
  superclasses := []
  interfaces := []
  package := "p"
  origin := ⟨3, "@interface Range", none⟩
  format := .v2
  methods := []
  fields := []

/-- A line with all that a method can have. -/
def elementLine : Line where
  number := 4
  text := ("    method @Deprecated(since=(1)) public <T extends A<B>> String[]? f(vararg int... xs, T = g(1, 2), " ++
    "@A Long) throws Exception, p.E default \x7b\";\"\x7d;").toList
  blame := none

/-- What the line declares in an annotation type. -/
def elementSignature : MethodSignature where
  kind := .method
  modifiers := .ofList ["deprecated", "method", "public"]
  annotations := ["@Deprecated"]
  type := "java.lang.String[]"
  name := "f"
  parameters := [
    { type := "int...", name := some "xs", annotations := [], value := none },
    { type := "T", name := none, annotations := [], value := some "g ( 1 , 2 )" },
    { type := "java.lang.Long", name := none, annotations := ["@A"], value := none }]
  throws := ["java.lang.Exception", "p.E"]
  value := some "\x7b \";\" \x7d"

/-- The line is read in an annotation type, so its tokens are written as the grammar says. -/
theorem methodRead_iff_element :
    elementOwner.format = .v2 ∧
      ∃ tokens, tokenize elementLine.text = .ok tokens ∧ Grammar.MethodLine true tokens elementSignature := by
  have fine : (tokenize elementLine.text).isOk = true := by decide +kernel
  have read : Method.read elementOwner elementLine =
      .ok { elementSignature with owner := "p.Range", origin := elementLine.origin } :=
    Grammar.eq_ok_of_toOption (by decide +kernel)
  cases lexed : tokenize elementLine.text with
  | error e =>
    rw [lexed] at fine
    cases fine
  | ok tokens => exact ⟨rfl, tokens, rfl, ((methodRead_iff rfl lexed _).mp read).1⟩

end SignatureLint
