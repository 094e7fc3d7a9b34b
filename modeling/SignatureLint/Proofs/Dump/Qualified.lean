import SignatureLint.Proofs.Dump.Names
import SignatureLint.Proofs.Grammar.Ahead
import SignatureLint.Proofs.Grammar.Parts
import SignatureLint.Proofs.Token.Lexeme

/-!
# Types are qualified

Every type that a declaration tells is of a name in its line (`Naming.TypeIn`), qualified, with its dimensions and
perhaps three dots. So without these it is no bare name of the language package (`declarations_qualified`), in both
formats and wherever it stands. There is one way around: a type of format 2 whose name goes on in a second word can
end in three dots that are no token, and its name is then qualified with them or not at all.
-/

namespace SignatureLint

open Grammar
open Token (IsSpelled)

/-! ## The name in a type -/

/-- The characters before three dots, backwards. -/
def beforeEllipsis : List Char → List Char
  | '.' :: '.' :: '.' :: cs => cs
  | cs => cs

/-- The characters before dimensions, backwards. -/
def beforeDimensions : List Char → List Char
  | ']' :: '[' :: cs => beforeDimensions cs
  | cs => cs

/-- The type without three dots at its end, and then without dimensions at its end. -/
def bareType (type : String) : String :=
  String.ofList (beforeDimensions (beforeEllipsis type.toList.reverse)).reverse

/-- A type of that name. -/
inductive TypeOf (name : String) : String → Prop
  | plain (dimensions : Nat) : TypeOf name (withDimensions (qualify name) dimensions)
  | variadic (dimensions : Nat) : TypeOf name (withDimensions (qualify name) dimensions ++ "...")

section

variable {name type : String}

theorem withDimensions_succ (name : String) (dimensions : Nat) :
    withDimensions name (dimensions + 1) = withDimensions name dimensions ++ "[]" := by
  rw [withDimensions, withDimensions, List.replicate_succ', String.join_append, String.append_assoc]
  rfl

theorem beforeDimensions_of_isSpelled (spelled : IsSpelled name) :
    beforeDimensions name.toList.reverse = name.toList.reverse := by
  unfold beforeDimensions
  split
  next cs same =>
    have mem : ']' ∈ name.toList := List.mem_reverse.mp (same ▸ List.mem_cons_self)
    exact absurd (spelled _ mem) (by decide)
  next => rfl

/-- Dimensions are taken away from a name as they were put to it. -/
theorem beforeDimensions_withDimensions (spelled : IsSpelled name) (dimensions : Nat) :
    beforeDimensions (withDimensions name dimensions).toList.reverse = name.toList.reverse := by
  induction dimensions with
  | zero =>
    rw [withDimensions, List.replicate_zero, String.join_nil, String.append_empty]
    exact beforeDimensions_of_isSpelled spelled
  | succ dimensions ih =>
    rw [withDimensions_succ, String.toList_append, List.reverse_append]
    exact ih

theorem bareType_variadic (spelled : IsSpelled name) (dimensions : Nat) :
    bareType (withDimensions name dimensions ++ "...") = name := by
  rw [bareType, String.toList_append, List.reverse_append]
  show String.ofList (beforeDimensions (withDimensions name dimensions).toList.reverse).reverse = name
  rw [beforeDimensions_withDimensions spelled, List.reverse_reverse, String.ofList_toList]

theorem bareType_withDimensions (spelled : IsSpelled name) (dimensions : Nat) :
    bareType (withDimensions name (dimensions + 1)) = name := by
  rw [withDimensions_succ, bareType, String.toList_append, List.reverse_append]
  show String.ofList (beforeDimensions (withDimensions name dimensions).toList.reverse).reverse = name
  rw [beforeDimensions_withDimensions spelled, List.reverse_reverse, String.ofList_toList]

/-- A name is its own type, unless it ends in three dots. -/
theorem bareType_of_isSpelled (spelled : IsSpelled name) : bareType name = name ∨ name = bareType name ++ "..." := by
  unfold bareType beforeEllipsis
  split
  next cs backwards =>
    right
    have forwards : name.toList = cs.reverse ++ "...".toList := by
      rw [← List.reverse_reverse name.toList, backwards]
      simp
    have start : IsSpelled (String.ofList cs.reverse) := by
      intro c mem
      rw [String.toList_ofList] at mem
      exact spelled c (forwards ▸ List.mem_append_left _ mem)
    have kept := beforeDimensions_of_isSpelled start
    rw [String.toList_ofList, List.reverse_reverse] at kept
    rw [kept, ← String.toList_inj, String.toList_append, String.toList_ofList, forwards]
  next =>
    left
    rw [beforeDimensions_of_isSpelled spelled, List.reverse_reverse, String.ofList_toList]

theorem isSpelled_qualify (spelled : IsSpelled name) : IsSpelled (qualify name) := by
  by_cases bare : name ∈ platformTypes
  · have package : IsSpelled "java.lang." := by decide +kernel
    rw [qualify_of_mem bare]
    exact package.append spelled
  · rw [qualify_of_not_mem bare]
    exact spelled

/-- A name of the package does not end in three dots when the package is put to it. -/
theorem qualify_eq_self {start : String} (bare : start ∈ platformTypes) (dots : qualify name = start ++ "...") :
    qualify name = name := by
  by_cases qualifies : name ∈ platformTypes
  · -- what stands before the first dot would be `java`, and what comes after it no second dot
    rw [qualify_of_mem qualifies, ← String.toList_inj, String.toList_append, String.toList_append] at dots
    have java : '.' ∉ "java".toList := by decide
    have apart : "lang.".toList ++ name.toList = ['.', '.'] :=
      (eq_of_append_mark java (platformTypes_undotted _ bare) dots).2
    cases apart
  · exact qualify_of_not_mem qualifies

/-- A type is no bare name of the package, unless its name is one with three dots that belong to the name. -/
theorem TypeOf.name_eq (of : TypeOf name type) (spelled : IsSpelled name) (bare : bareType type ∈ platformTypes) :
    type = name ∧ type = bareType type ++ "..." := by
  have qualified := isSpelled_qualify spelled
  cases of with
  | variadic dimensions =>
    rw [bareType_variadic qualified] at bare
    exact absurd bare (qualify_not_mem name)
  | plain dimensions =>
    cases dimensions with
    | succ dimensions =>
      rw [bareType_withDimensions qualified] at bare
      exact absurd bare (qualify_not_mem name)
    | zero =>
      have plain : withDimensions (qualify name) 0 = qualify name := String.append_empty
      rw [plain] at bare ⊢
      rcases bareType_of_isSpelled qualified with same | dots
      · rw [same] at bare
        exact absurd bare (qualify_not_mem name)
      · exact ⟨qualify_eq_self bare dots, dots⟩

end

/-! ## Names in tokens -/

/-- Which names stand in tokens. What stands in the last of some tokens stands in all of them. -/
structure Naming where
  Named : List Token → String → Prop
  grows : ∀ {ts ts' : List Token} {name : String}, ts <:+ ts' → Named ts name → Named ts' name

namespace Naming

/-- In format 1 a name is a word. -/
def words : Naming where
  Named ts name := .word name ∈ ts
  grows suffix mem := suffix.mem mem

/-- In format 2 a name can go on in a second word. -/
def phrases : Naming where
  Named ts name := ∃ named rest, named <:+ ts ∧ NamePhrase named name rest
  grows := by
    rintro ts ts' name suffix ⟨named, rest, inside, written⟩
    exact ⟨named, rest, inside.trans suffix, written⟩

/-- The type is of a name that stands in the tokens. -/
def TypeIn (n : Naming) (ts : List Token) (type : String) : Prop := ∃ name, n.Named ts name ∧ TypeOf name type

/-- The types that a phrase tells are of names that stand in its tokens. -/
structure Tells (n : Naming) {α : Type} (types : α → List String) (p : Phrase α) : Prop where
  suffix : LeavesSuffix p
  typed : ∀ ts a rest, p ts a rest → ∀ type ∈ types a, n.TypeIn ts type

section

variable {n : Naming} {α : Type} {types : α → List String} {p : Phrase α} {ts ts' : List Token} {type : String}

theorem TypeIn.mono (suffix : ts <:+ ts') (typed : n.TypeIn ts type) : n.TypeIn ts' type := by
  obtain ⟨name, named, of⟩ := typed
  exact ⟨name, n.grows suffix named, of⟩

theorem Tells.announced (tells : n.Tells types p) (announced : Token) :
    n.Tells (fun a => a.toList.flatMap types) (Announced announced p) where
  suffix := Announced.leavesSuffix _ tells.suffix
  typed := by
    rintro ts a rest (written | -) type mem
    · rw [Option.toList_some, List.flatMap_singleton] at mem
      exact (tells.typed _ _ _ written type mem).mono (List.suffix_cons _ _)
    · cases mem

theorem Tells.repeated (tells : n.Tells types p) (announced : Token) :
    n.Tells (List.flatMap types) (Repeated announced p) where
  suffix := Repeated.leavesSuffix _ tells.suffix
  typed := by
    intro ts as rest written
    induction written with
    | more one _ ih =>
      intro type mem
      rw [List.flatMap_cons] at mem
      rcases List.mem_append.mp mem with here | later
      · exact (tells.typed _ _ _ one type here).mono (List.suffix_cons _ _)
      · exact (ih type later).mono ((tells.suffix _ _ _ one).trans (List.suffix_cons _ _))
    | done =>
      intro type mem
      cases mem

theorem Tells.commaSeparated (tells : n.Tells types p) : n.Tells (List.flatMap types) (CommaSeparated p) where
  suffix := by
    rintro ts as rest ⟨one, more⟩
    exact ((tells.repeated _).suffix _ _ _ more).trans (tells.suffix _ _ _ one)
  typed := by
    rintro ts as rest ⟨one, more⟩ type mem
    rw [List.flatMap_cons] at mem
    rcases List.mem_append.mp mem with here | later
    · exact tells.typed _ _ _ one type here
    · exact ((tells.repeated _).typed _ _ _ more type later).mono (tells.suffix _ _ _ one)

theorem Tells.untilBracket (tells : n.Tells types p) : n.Tells (List.flatMap types) (UntilBracket p) where
  suffix := by
    intro ts as rest written
    induction written with
    | last one => exact (List.suffix_cons _ _).trans (tells.suffix _ _ _ one)
    | more one _ ih => exact (ih.trans (List.suffix_cons _ _)).trans (tells.suffix _ _ _ one)
  typed := by
    intro ts as rest written
    induction written with
    | last one =>
      intro type mem
      rw [List.flatMap_singleton] at mem
      exact tells.typed _ _ _ one type mem
    | more one _ ih =>
      intro type mem
      rw [List.flatMap_cons] at mem
      rcases List.mem_append.mp mem with here | later
      · exact tells.typed _ _ _ one type here
      · exact (ih type later).mono ((List.suffix_cons _ _).trans (tells.suffix _ _ _ one))

theorem Tells.bracketed (tells : n.Tells types p) : n.Tells (List.flatMap types) (Bracketed p) where
  suffix := by
    rintro ts as rest (- | ⟨-, written⟩)
    · exact (List.suffix_cons _ _).trans (List.suffix_cons _ _)
    · exact (tells.untilBracket.suffix _ _ _ written).trans (List.suffix_cons _ _)
  typed := by
    rintro ts as rest (- | ⟨-, written⟩) type mem
    · cases mem
    · exact (tells.untilBracket.typed _ _ _ written type mem).mono (List.suffix_cons _ _)

end

/-! ## Types of format 2 -/

theorem tells_type : phrases.Tells (fun type => [type]) TypePhrase where
  suffix := TypePhrase.leavesSuffix
  typed := by
    rintro ts type rest @⟨_, named, after, _, _, _, name, dimensions, annotations, written, -, -⟩ type mem
    rw [List.mem_singleton.mp mem]
    have inside := AnnotationPhrases.leavesSuffix _ _ _ annotations
    exact ⟨name, ⟨named, after, inside, written⟩, .plain dimensions⟩

theorem tells_moreTypes : phrases.Tells id MoreTypesPhrase where
  suffix := MoreTypesPhrase.leavesSuffix
  typed := by
    intro ts types rest written
    induction written with
    | more comma _ one _ ih =>
      have inside := OptionalToken.leavesSuffix _ _ _ _ comma
      intro type mem
      rcases List.mem_cons.mp mem with rfl | later
      · exact (tells_type.typed _ _ _ one _ (List.mem_singleton_self _)).mono inside
      · exact (ih type later).mono ((tells_type.suffix _ _ _ one).trans inside)
    | done =>
      intro type mem
      cases mem

theorem tells_typeList : phrases.Tells id TypeListPhrase where
  suffix := TypeListPhrase.leavesSuffix
  typed := by
    rintro ts types rest ⟨one, more⟩ type mem
    rcases List.mem_cons.mp mem with rfl | later
    · exact tells_type.typed _ _ _ one _ (List.mem_singleton_self _)
    · exact (tells_moreTypes.typed _ _ _ more type later).mono (tells_type.suffix _ _ _ one)

theorem tells_parameter : phrases.Tells (fun p => [p.type]) ParameterPhrase where
  suffix := fun _ p _ written => (ParameterPhrase.oneAhead p).suffix written
  typed := by
    rintro ts _ rest @⟨_, annotated, typed, dotted, _, _, _, _, _, variadic, _, _, _, _, vararg, annotations,
      @⟨_, named, after, _, _, _, name, dimensions, typeAnnotations, written, -, -⟩, -, -, -, -⟩ type mem
    have inside : named <:+ ts := ((AnnotationPhrases.leavesSuffix _ _ _ typeAnnotations).trans
      (AnnotationPhrases.leavesSuffix _ _ _ annotations)).trans (OptionalToken.leavesSuffix _ _ _ _ vararg)
    refine ⟨name, ⟨named, after, inside, written⟩, ?_⟩
    rw [List.mem_singleton.mp mem]
    cases variadic with
    | false => exact .plain dimensions
    | true => exact .variadic dimensions

/-! ## Types of format 1 -/

theorem suffix_dimensions (ts : List Token) : (Positional.dimensions ts).2 <:+ ts := by
  fun_induction Positional.dimensions ts with
  | case1 rest ih => exact ih.trans (List.suffix_cons _ _)
  | case2 => exact List.suffix_refl _

/-- A type of format 1 is its first word. -/
theorem positionalType_eq_ok {ts rest : List Token} {type : String} :
    Positional.type ts = .ok (type, rest) ↔
      ∃ name left, ts = .word name :: left ∧ type = withDimensions (qualify name) (Positional.dimensions left).1 ∧
        rest = (Positional.dimensions left).2 := by
  rw [Positional.type, map_eq_ok]
  constructor
  · rintro ⟨⟨name, left⟩, named, same⟩
    cases same
    exact ⟨name, left, word_eq_ok.mp named, rfl, rfl⟩
  · rintro ⟨name, left, rfl, rfl, rfl⟩
    exact ⟨(name, left), rfl, rfl⟩

/-- What an element reads, as a phrase. -/
def readBy {α : Type} (element : Element α) : Phrase α := fun ts a rest => element.read ts = .ok (a, rest)

theorem tells_positionalType : words.Tells (fun type => [type]) (readBy Positional.typeElement) where
  suffix := by
    intro ts type rest read
    obtain ⟨name, left, rfl, -, rfl⟩ := positionalType_eq_ok.mp read
    exact (suffix_dimensions left).trans (List.suffix_cons _ _)
  typed := by
    intro ts type rest read type mem
    obtain ⟨name, left, rfl, rfl, -⟩ := positionalType_eq_ok.mp read
    rw [List.mem_singleton.mp mem]
    exact ⟨name, List.mem_cons_self, .plain _⟩

theorem suffix_skipIf (t : Token) (ts : List Token) : skipIf t ts <:+ ts :=
  OptionalToken.leavesSuffix t ts _ _ (takeIf_eq.mp rfl)

theorem suffix_positionalName (ts : List Token) : (Positional.parameterName ts).2 <:+ ts := by
  unfold Positional.parameterName
  split
  · exact List.suffix_cons _ _
  · exact List.suffix_refl _

theorem tells_positionalParameter : words.Tells (fun p => [p.type]) (readBy Positional.parameterElement) where
  suffix := by
    intro ts p rest read
    obtain ⟨⟨text, left⟩, typed, same⟩ := map_eq_ok.mp read
    cases same
    exact ((suffix_positionalName _).trans (suffix_skipIf _ _)).trans (tells_positionalType.suffix _ _ _ typed)
  typed := by
    intro ts p rest read type mem
    obtain ⟨⟨text, left⟩, typed, same⟩ := map_eq_ok.mp read
    cases same
    obtain ⟨name, left, rfl, rfl, -⟩ := positionalType_eq_ok.mp typed
    refine ⟨name, List.mem_cons_self, ?_⟩
    rw [List.mem_singleton.mp mem]
    dsimp only
    split
    · exact .variadic _
    · exact .plain _

/-- The supertypes of format 1 are single words. -/
theorem typeIn_clauses {ts : List Token} {extended implemented : List String}
    (read : Positional.clauses ts = .ok (extended, implemented)) :
    ∀ type ∈ extended ++ implemented, words.TypeIn ts type := by
  have typeOf (name : String) : TypeOf name (qualify name) := by
    have plain : TypeOf name (withDimensions (qualify name) 0) := .plain 0
    rwa [withDimensions, List.replicate_zero, String.join_nil, String.append_empty] at plain
  have behind {name keyword : String} {rest : List Token} : rest <:+ .word keyword :: .word name :: rest :=
    (List.suffix_cons _ _).trans (List.suffix_cons _ _)
  have here {name keyword : String} {rest : List Token} :
      words.TypeIn (.word keyword :: .word name :: rest) (qualify name) :=
    ⟨name, List.mem_cons_of_mem _ List.mem_cons_self, typeOf name⟩
  fun_induction Positional.clauses ts generalizing extended implemented with
  | case1 =>
    cases read
    intro type mem
    cases mem
  | case2 name rest ih =>
    obtain ⟨⟨more, others⟩, later, same⟩ := map_eq_ok.mp read
    cases same
    intro type mem
    rcases List.mem_cons.mp mem with rfl | mem
    · exact here
    · exact (ih later type mem).mono behind
  | case3 name rest ih =>
    obtain ⟨⟨others, more⟩, later, same⟩ := map_eq_ok.mp read
    cases same
    intro type mem
    rcases List.mem_append.mp mem with mem | mem
    · exact (ih later type (List.mem_append_left _ mem)).mono behind
    · rcases List.mem_cons.mp mem with rfl | mem
      · exact here
      · exact (ih later type (List.mem_append_right _ mem)).mono behind
  | case4 rest =>
    obtain ⟨_, -, same⟩ := map_eq_ok.mp read
    cases same
    intro type mem
    cases mem
  | case5 rest =>
    obtain ⟨_, -, same⟩ := map_eq_ok.mp read
    cases same
    intro type mem
    cases mem
  | case6 t rest _ _ _ _ ih => exact fun type mem => (ih read type mem).mono (List.suffix_cons _ _)

/-! ## Declarations -/

section

variable {n : Naming} {ts : List Token}

/-- The types of parameters, and of what is thrown behind them. -/
theorem typeIn_parameters {type : Phrase String} {parameter : Phrase Parameter}
    (types : n.Tells (fun type => [type]) type) (parameters : n.Tells (fun p => [p.type]) parameter)
    {given : List Parameter} {throws : Option (List String)} {bracketed thrown rest : List Token}
    (inside : bracketed <:+ ts) (written : Bracketed parameter bracketed given thrown)
    (clause : Announced (.word "throws") (CommaSeparated type) thrown throws rest) :
    ∀ type ∈ given.map Parameter.type ++ throws.getD [], n.TypeIn ts type := by
  intro type mem
  rcases List.mem_append.mp mem with mem | mem
  · obtain ⟨parameter, listed, rfl⟩ := List.mem_map.mp mem
    have told : parameter.type ∈ given.flatMap fun p => [p.type] :=
      List.mem_flatMap.mpr ⟨parameter, listed, List.mem_singleton_self _⟩
    exact (parameters.bracketed.typed _ _ _ written _ told).mono inside
  · cases throws with
    | none => cases mem
    | some throws =>
      have told : type ∈ (some throws).toList.flatMap (List.flatMap fun type => [type]) := by
        simpa using mem
      have behind := (parameters.bracketed.suffix _ _ _ written).trans inside
      exact ((types.commaSeparated.announced _).typed _ _ _ clause type told).mono behind

end

/-- Where names stand in each format. -/
def ofFormat : Format → Naming
  | .v1 => words
  | .v2 => phrases

theorem suffix_wordsAmong (allowed : List String) (ts : List Token) : (wordsAmong allowed ts).2 <:+ ts :=
  Words.leavesSuffix allowed ts _ _ (wordsAmong_eq.mp rfl)

/-- What follows the modifiers of a member of format 1, behind its first word. -/
theorem suffix_modified {α : Type} {options : List α} {token : α → Token} {a : α} {ts modified : List Token}
    (chosen : choose options token ts = .ok (a, modified)) (allowed : List String) :
    (wordsAmong allowed modified).2 <:+ ts := by
  rw [eq_of_choose chosen]
  exact (suffix_wordsAmong _ _).trans (List.suffix_cons _ _)

/-- The types of a method are of names in its tokens; the type of a constructor is the word it starts with. -/
theorem typeIn_readMethod {format : Format} {inAnnotationType : Bool} {line : Line} {signature : MethodSignature}
    (read : MethodSignature.read format inAnnotationType line = .ok signature) :
    ∃ tokens, line.tokensIn format = .ok tokens ∧
      (signature.type = "ctor" ∨ (ofFormat format).TypeIn tokens signature.type) ∧
      ∀ type ∈ signature.parameters.map Parameter.type ++ signature.throws, (ofFormat format).TypeIn tokens type := by
  cases format with
  | v1 =>
    obtain ⟨tokens, scanned, read⟩ := bind_eq_ok.mp read
    obtain ⟨⟨kind, modified⟩, chosen, read⟩ := bind_eq_ok.mp (mapError_eq_ok.mp read)
    obtain ⟨⟨type, named⟩, typeRead, read⟩ := bind_eq_ok.mp read
    obtain ⟨⟨name, bracketed⟩, nameRead, read⟩ := bind_eq_ok.mp read
    obtain ⟨⟨given, thrown⟩, parametersRead, read⟩ := bind_eq_ok.mp read
    obtain ⟨⟨throws, valued⟩, throwsRead, read⟩ := bind_eq_ok.mp read
    obtain ⟨⟨value, ended⟩, -, read⟩ := bind_eq_ok.mp read
    obtain ⟨left, -, read⟩ := bind_eq_ok.mp read
    obtain ⟨_, -, read⟩ := bind_eq_ok.mp read
    cases pure_eq_ok.mp read
    have inside : (wordsAmong Positional.methodModifiers modified).2 <:+ tokens := suffix_modified chosen _
    have result : named <:+ tokens ∧ (type = "ctor" ∨ words.TypeIn tokens type) := by
      cases kind with
      | constructor =>
        cases typeRead
        exact ⟨inside, .inl rfl⟩
      | method =>
        have typed := tells_positionalType.typed _ _ _ typeRead type (List.mem_singleton_self _)
        exact ⟨(tells_positionalType.suffix _ _ _ typeRead).trans inside, .inr (typed.mono inside)⟩
    rw [word_eq_ok.mp nameRead] at result
    have parameters : Bracketed (readBy Positional.parameterElement) bracketed given thrown :=
      (bracketed_eq_ok fun _ => Iff.rfl).mp parametersRead
    obtain ⟨clause, throwsPhrase, rfl⟩ := (clause_eq_ok Iff.rfl).mp throwsRead
    exact ⟨tokens, scanned, result.2, typeIn_parameters tells_positionalType tells_positionalParameter
      ((List.suffix_cons _ _).trans result.1) parameters throwsPhrase⟩
  | v2 =>
    obtain ⟨tokens, scanned, read⟩ := bind_eq_ok.mp read
    obtain @⟨kind, _, _, _, type, name, _, _, _, annotated, modified, generic, typed, bracketed, thrown, ended,
      annotations, words, arguments, result, parameters, throws, -, -⟩ := method_eq_ok.mp (mapError_eq_ok.mp read)
    have inside : typed <:+ .word kind.keyword :: annotated :=
      ((arguments.suffix.trans (Words.leavesSuffix _ _ _ _ words)).trans
        (AnnotationPhrases.leavesSuffix _ _ _ annotations)).trans (List.suffix_cons _ _)
    have result : .word name :: bracketed <:+ typed ∧ (type = "ctor" ∨ phrases.TypeIn typed type) := by
      cases result with
      | constructor => exact ⟨List.suffix_refl _, .inl rfl⟩
      | method written =>
        have told := tells_type.typed _ _ _ written type (List.mem_singleton_self _)
        exact ⟨tells_type.suffix _ _ _ written, .inr told⟩
    have behind := ((List.suffix_cons _ _).trans result.1).trans inside
    exact ⟨_, scanned, result.2.imp_right (·.mono inside),
      typeIn_parameters tells_type tells_parameter behind parameters throws⟩

theorem typeIn_readField {format : Format} {line : Line} {signature : FieldSignature}
    (read : FieldSignature.read format line = .ok signature) :
    ∃ tokens, line.tokensIn format = .ok tokens ∧ (ofFormat format).TypeIn tokens signature.type := by
  cases format with
  | v1 =>
    obtain ⟨tokens, scanned, read⟩ := bind_eq_ok.mp read
    obtain ⟨⟨kind, modified⟩, chosen, read⟩ := bind_eq_ok.mp (mapError_eq_ok.mp read)
    obtain ⟨⟨type, named⟩, typeRead, read⟩ := bind_eq_ok.mp read
    obtain ⟨⟨name, valued⟩, -, read⟩ := bind_eq_ok.mp read
    obtain ⟨⟨value, ended⟩, -, read⟩ := bind_eq_ok.mp read
    obtain ⟨left, -, read⟩ := bind_eq_ok.mp read
    obtain ⟨_, -, read⟩ := bind_eq_ok.mp read
    cases pure_eq_ok.mp read
    have typed := tells_positionalType.typed _ _ _ typeRead type (List.mem_singleton_self _)
    exact ⟨tokens, scanned, typed.mono (suffix_modified chosen _)⟩
  | v2 =>
    obtain ⟨tokens, scanned, read⟩ := bind_eq_ok.mp read
    obtain ⟨parts, @⟨_, annotated, modified, typed, valued, annotations, words, reference, -⟩, rfl⟩ :=
      field_iff_parts.mp (mapError_eq_ok.mp read)
    have inside : typed <:+ .word parts.kind.keyword :: annotated :=
      ((Words.leavesSuffix _ _ _ _ words).trans (AnnotationPhrases.leavesSuffix _ _ _ annotations)).trans
        (List.suffix_cons _ _)
    have written : TypePhrase typed parts.type.text (.word parts.name :: valued) := by
      rw [typePhrase_eq]
      exact ⟨parts.type, reference, rfl⟩
    exact ⟨_, scanned, (tells_type.typed _ _ _ written _ (List.mem_singleton_self _)).mono inside⟩

theorem mem_or_mem_of_implementedBy {kind : ClassKind} {extended implemented : Option (List String)} {type : String}
    (mem : type ∈ implementedBy kind extended implemented) :
    type ∈ extended.getD [] ∨ type ∈ implemented.getD [] := by
  unfold implementedBy at mem
  split at mem
  · exact .inr mem
  · split at mem
    · exact .inl mem
    · cases mem

theorem typeIn_readHeader {format : Format} {line : Line} {header : ClassHeader}
    (read : ClassHeader.read format line = .ok header) :
    ∃ tokens, line.tokensIn format = .ok tokens ∧
      ∀ type ∈ header.superclasses ++ header.interfaces, (ofFormat format).TypeIn tokens type := by
  cases format with
  | v1 =>
    obtain ⟨tokens, scanned, read⟩ := bind_eq_ok.mp read
    cases split : Positional.splitAtKind tokens with
    | none =>
      rw [split] at read
      cases read
    | some parts =>
      obtain ⟨before, kind, after⟩ := parts
      rw [split] at read
      obtain ⟨⟨name, rest⟩, named, read⟩ := bind_eq_ok.mp (mapError_eq_ok.mp read)
      obtain ⟨⟨extended, implemented⟩, clauses, read⟩ := bind_eq_ok.mp read
      cases pure_eq_ok.mp read
      have inside : rest <:+ tokens := by
        rw [Positional.eq_of_splitAtKind split, word_eq_ok.mp named]
        exact (((List.suffix_cons _ _).trans (List.suffix_cons _ _))).trans (List.suffix_append _ _)
      exact ⟨tokens, scanned, fun type mem => (typeIn_clauses clauses type mem).mono inside⟩
  | v2 =>
    obtain ⟨tokens, scanned, read⟩ := bind_eq_ok.mp read
    obtain ⟨kind, @⟨_, annotations, words, declared, extended, implemented, annotated, modified, generic, clauses, left,
      annotationPhrases, wordsPhrase, arguments, extendsPhrase, implementsPhrase, -⟩⟩ :=
      classHeader_eq_ok.mp (mapError_eq_ok.mp read)
    have inside : clauses <:+ tokens := by
      have named := (Words.leavesSuffix _ _ _ _ wordsPhrase).trans
        (AnnotationPhrases.leavesSuffix _ _ _ annotationPhrases)
      exact arguments.suffix.trans ((List.suffix_append [_, _] _).trans named)
    have listed {types : Option (List String)} {type : String} (mem : type ∈ types.getD []) :
        type ∈ types.toList.flatMap id := by
      cases types with
      | none => cases mem
      | some types => simpa using mem
    have told {keyword : String} {types : Option (List String)} {ts rest : List Token}
        (written : Announced (.word keyword) TypeListPhrase ts types rest) (behind : ts <:+ clauses) :
        ∀ type ∈ types.getD [], phrases.TypeIn tokens type := fun type mem =>
      ((tells_typeList.announced _).typed _ _ _ written type (listed mem)).mono (behind.trans inside)
    have extendedTypes := told extendsPhrase (List.suffix_refl _)
    have implementedTypes := told implementsPhrase ((tells_typeList.announced _).suffix _ _ _ extendsPhrase)
    refine ⟨tokens, scanned, fun type mem => ?_⟩
    rcases List.mem_append.mp mem with mem | mem
    · exact extendedTypes type mem
    · rcases mem_or_mem_of_implementedBy mem with mem | mem
      · exact extendedTypes type mem
      · exact implementedTypes type mem

end Naming

/-! ## Lines -/

/-- The words of a text have no three dots in them. -/
theorem Token.Lexemes.noEllipsis {ts : List Token} {cs : List Char} (lexemes : Lexemes ts cs) {text : String}
    (mem : .word text ∈ ts) : ¬ "...".toList <:+: text.toList := by
  induction lexemes with
  | done => cases mem
  | comment => cases mem
  | token _ _ whole _ ih =>
    rcases List.mem_cons.mp mem with rfl | mem
    · exact whole.2.1
    · exact ih mem

section

variable {line : Line} {format : Format} {tokens : List Token} {type : String}

theorem Line.noEllipsis_of_tokensIn (scanned : line.tokensIn format = .ok tokens) {name : String}
    (mem : .word name ∈ tokens) {start : String} : name ≠ start ++ "..." := by
  obtain ⟨all, scannedAll, inside⟩ := Line.sublist_of_tokensIn scanned
  have scan := Token.scanned_of_scan (mapError_eq_ok.mp (mapError_eq_ok.mp scannedAll))
  have undotted := scan.lexemes.noEllipsis (inside.subset mem)
  rintro rfl
  exact undotted ⟨start.toList, [], by rw [String.toList_append, List.append_nil]⟩

/-- The type is two words of a line, the first with a dot at its end, that together end in three dots. -/
inductive SplitEllipsis (tokens : List Token) : String → Prop
  | split {first second : String} {between rest : List Token} {annotations : List String} :
    .word first :: between <:+ tokens → first.toList.getLast? = some '.' →
      AnnotationPhrases between annotations (.word second :: rest) →
      first ++ second = bareType (first ++ second) ++ "..." → SplitEllipsis tokens (first ++ second)

/-- The type is no bare name of the language package, but for dots that a line of format 2 puts together. -/
def Line.Qualifies (line : Line) (format : Format) (type : String) : Prop :=
  bareType type ∈ platformTypes → format = .v2 ∧ ∃ tokens, line.tokens = .ok tokens ∧ SplitEllipsis tokens type

/-- A type of a name in the tokens of a line is qualified. -/
theorem Naming.TypeIn.qualifies (typed : (Naming.ofFormat format).TypeIn tokens type)
    (scanned : line.tokensIn format = .ok tokens) : line.Qualifies format type := by
  intro bare
  obtain ⟨name, named, of⟩ := typed
  -- a name that is a word would be one that ends in three dots
  have noWord {word : String} (mem : .word word ∈ tokens) (of : TypeOf word type) : False := by
    obtain ⟨same, dots⟩ := of.name_eq (Line.isSpelled_of_tokensIn scanned mem) bare
    exact Line.noEllipsis_of_tokensIn scanned mem (same ▸ dots)
  cases format with
  | v1 => exact (noWord named of).elim
  | v2 =>
    obtain ⟨ts, rest, inside, undotted | @⟨first, second, between, _, annotations, dotted, annotationPhrases⟩⟩ := named
    · exact (noWord (inside.mem List.mem_cons_self) of).elim
    · have secondInside := (AnnotationPhrases.leavesSuffix _ _ _ annotationPhrases).trans
        ((List.suffix_cons _ _).trans inside)
      have spelled := (Line.isSpelled_of_tokensIn scanned (inside.mem List.mem_cons_self)).append
        (Line.isSpelled_of_tokensIn scanned (secondInside.mem List.mem_cons_self))
      obtain ⟨rfl, dots⟩ := of.name_eq spelled bare
      exact ⟨rfl, tokens, scanned, .split inside dotted annotationPhrases dots⟩

end

/-- **All types of a declaration are qualified**, in both formats: a table look-up puts the package to each name that
lacks it, to no name twice, and to the name of every type that a line is read with. -/
theorem declarations_qualified :
    (∀ name, qualify name = if name ∈ platformTypes then "java.lang." ++ name else name) ∧
    (∀ name, qualify (qualify name) = qualify name) ∧
    (∀ format line header, ClassHeader.read format line = .ok header →
      ∀ type ∈ header.superclasses ++ header.interfaces, line.Qualifies format type) ∧
    (∀ format inAnnotationType line signature, MethodSignature.read format inAnnotationType line = .ok signature →
      ∀ type ∈ signature.type :: (signature.parameters.map Parameter.type ++ signature.throws),
        line.Qualifies format type) ∧
    ∀ format line signature, FieldSignature.read format line = .ok signature →
      line.Qualifies format signature.type := by
  refine ⟨fun name => ?_, qualify_qualify, ?_, ?_, ?_⟩
  · split
    next bare => exact qualify_of_mem bare
    next other => exact qualify_of_not_mem other
  · intro format line header read type mem
    obtain ⟨tokens, scanned, typed⟩ := Naming.typeIn_readHeader read
    exact (typed type mem).qualifies scanned
  · intro format inAnnotationType line signature read type mem
    obtain ⟨tokens, scanned, result, others⟩ := Naming.typeIn_readMethod read
    rcases List.mem_cons.mp mem with rfl | mem
    · rcases result with constructor | typed
      · rw [constructor]
        exact fun bare => absurd bare (by decide +kernel)
      · exact typed.qualifies scanned
    · exact (others type mem).qualifies scanned
  · intro format line signature read
    obtain ⟨tokens, scanned, typed⟩ := Naming.typeIn_readField read
    exact typed.qualifies scanned

/-- Every type of a line that writes them bare, behind annotations, with dimensions and with three dots. -/
theorem declarations_qualified_element :
    MethodSignature.read .v2 true elementLine = .ok elementSignature ∧
      ∀ type ∈ ["java.lang.String[]", "int...", "T", "java.lang.Long", "java.lang.Exception", "p.E"],
        elementLine.Qualifies .v2 type := by
  have read : MethodSignature.read .v2 true elementLine = .ok elementSignature :=
    eq_ok_of_toOption (by decide +kernel)
  exact ⟨read, declarations_qualified.2.2.2.1 .v2 true elementLine elementSignature read⟩

/-- Two words with dots that are put together. -/
def splitDotsLine : Line where
  number := 1
  text := "    field public String. .. X;".toList
  blame := none

/-- What two words make is looked up with its dots, and is no name of the table then. -/
theorem field_type_split_dots : ∃ signature, FieldSignature.read .v2 splitDotsLine = .ok signature ∧
    signature.type = "String..." ∧ bareType signature.type ∈ platformTypes := by
  have read : FieldSignature.read .v2 splitDotsLine = .ok {
      modifiers := .ofList ["field", "public"], annotations := [], type := "String...", name := "X", value := none } :=
    eq_ok_of_toOption (by decide +kernel)
  exact ⟨_, read, rfl, by decide +kernel⟩

end SignatureLint
