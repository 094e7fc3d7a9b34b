import SignatureLint.Proofs.Grammar.Ahead
import SignatureLint.Proofs.Grammar.Parts

/-!
# Places for values

Where a line has a value, another expression can stand (`ValueIn`): the same is declared, with the text of that
expression as the value. Each value that is read has such a place: that of a field (`hasValue_field`), that of any
parameter (`hasValue_parameter`) and the default of an element (`hasValue_default`). What stands before a value is
read without looking past the token that announces it, so the places are found from the value outwards
(`HasValue.prepend`).
-/

namespace SignatureLint.Grammar

/-! ## Expressions -/

/-- How values of a sort are written: what announces them, and what can follow them. -/
structure ValueSyntax where
  announcer : Token
  terminators : List Token

namespace ValueSyntax

def field : ValueSyntax := ⟨.punct '=', [.punct ';']⟩

def parameter : ValueSyntax := ⟨.punct '=', [.punct ',', .punct ')']⟩

def default : ValueSyntax := ⟨.word "default", [.punct ';']⟩

end ValueSyntax

/-- Tokens that can stand as a value: there are some, they close their brackets, and what ends the value stands only
inside of these. -/
structure IsExpression (terminators written : List Token) : Prop where
  filled : written ≠ []
  closed : depthOf written = 0
  inside : ∀ before u after, written = before ++ u :: after → depthOf before = 0 → u ∉ terminators

/-- The tokens have a value, which is written as `written` behind `before` and the token that announces it, up to one
that ends it. `Means` tells what tokens with a value mean: it holds of the tokens with any expression in that place. -/
structure ValueIn (s : ValueSyntax) (Means : List Token → String → Prop) (ts before written after : List Token) :
    Prop where
  tokens : ts = before ++ s.announcer :: (written ++ after)
  expression : IsExpression s.terminators written
  ends : ∃ t ∈ after.head?, t ∈ s.terminators
  slot : ∀ other, IsExpression s.terminators other →
    Means (before ++ s.announcer :: (other ++ after)) (spaced other)

/-- The tokens have a value somewhere. -/
def HasValue (s : ValueSyntax) (Means : List Token → String → Prop) (ts : List Token) : Prop :=
  ∃ before written after, ValueIn s Means ts before written after

section

variable {s : ValueSyntax} {Means Means' : List Token → String → Prop} {ts rest : List Token} {v : String}

/-- The value that was written means what was meant. -/
theorem ValueIn.means {before written after : List Token} (value : ValueIn s Means ts before written after) :
    Means ts (spaced written) := by
  rw [value.tokens]
  exact value.slot written value.expression

/-- Behind other tokens the value has its place too, if these mean the same before any expression there. -/
theorem HasValue.prepend (has : HasValue s Means ts) (taken : List Token)
    (extend : ∀ ts' v, ts'.head? = ts.head? → Means ts' v → Means' (taken ++ ts') v) :
    HasValue s Means' (taken ++ ts) := by
  obtain ⟨before, written, after, rfl, expression, ends, slot⟩ := has
  refine ⟨taken ++ before, written, after, by simp, expression, ends, fun other isExpression => ?_⟩
  rw [List.append_assoc]
  exact extend _ _ (by rw [List.head?_append, List.head?_append]; rfl) (slot other isExpression)

theorem expression_iff {terminators : List Token} :
    Expression terminators ts v rest ↔
      ∃ written, IsExpression terminators written ∧ (∃ t ∈ rest.head?, t ∈ terminators) ∧ ts = written ++ rest ∧
        v = spaced written := by
  constructor
  · rintro ⟨filled, closed, mem, inside⟩
    exact ⟨_, ⟨filled, closed, inside⟩, ⟨_, rfl, mem⟩, rfl, rfl⟩
  · rintro ⟨written, ⟨filled, closed, inside⟩, ⟨t, next, mem⟩, rfl, rfl⟩
    obtain ⟨rest, rfl⟩ := List.head?_eq_some_iff.mp next
    exact .upTo filled closed mem inside

/-- A value that is announced can be any expression. -/
theorem hasValue_announced (value : Announced s.announcer (Expression s.terminators) ts (some v) rest) :
    HasValue s (fun ts v => Announced s.announcer (Expression s.terminators) ts (some v) rest) ts := by
  cases value with
  | given expression =>
    obtain ⟨written, isExpression, ends, rfl, rfl⟩ := expression_iff.mp expression
    refine ⟨[], written, rest, rfl, isExpression, ends, fun other isExpression => ?_⟩
    exact .given (expression_iff.mpr ⟨other, isExpression, ends, rfl, rfl⟩)

end

/-! ## Fields -/

/-- A field's line up to its value. -/
inductive FieldStart (f : FieldSignature) : List Token → List Token → Prop where
  | start {kind : FieldKind} {words : List String} {annotated modified typed valued : List Token} :
    f.modifiers = modifierSet kind.keyword f.annotations words → AnnotationPhrases annotated f.annotations modified →
      Words modifierWords modified words typed → TypePhrase typed f.type (.word f.name :: valued) →
      FieldStart f (.word kind.keyword :: annotated) valued

variable {ts rest : List Token}

theorem field_iff_start {f : FieldSignature} :
    field ts = .ok f ↔
      ∃ valued, FieldStart f ts valued ∧
        Announced (.punct '=') (Expression [.punct ';']) valued f.value [.punct ';'] := by
  rw [field_iff_parts]
  constructor
  · rintro ⟨parts, ⟨annotations, words, type, value⟩, rfl⟩
    have type : Phrase.map Reference.text ReferencePhrase _ parts.type.text _ := ⟨_, type, rfl⟩
    rw [← typePhrase_eq] at type
    exact ⟨_, .start rfl annotations words type, announcedValue_iff.mpr ⟨_, value, rfl⟩⟩
  · rintro ⟨valued, start, value⟩
    cases start with
    | @start kind written _ _ _ _ modifiers annotations words type =>
      rw [typePhrase_eq] at type
      obtain ⟨r, type, typeIs⟩ := type
      obtain ⟨tokens, value, valueIs⟩ := announcedValue_iff.mp value
      refine ⟨⟨kind, f.annotations, written, r, f.name, tokens⟩, ?_, ?_⟩
      · exact @FieldLine.line ⟨kind, f.annotations, written, r, f.name, tokens⟩ _ _ _ _ annotations words type value
      · cases f
        simp only at modifiers typeIs valueIs
        rw [modifiers, typeIs, valueIs]
        rfl

theorem FieldStart.oneAhead (f : FieldSignature) : OneAhead (FieldStart f) := by
  rintro ts rest @⟨kind, _, _, _, _, _, modifiers, annotations, words, type⟩
  obtain ⟨typed, rfl, typeAgain⟩ := TypePhrase.oneAhead _ _ _ type
  obtain ⟨modified, rfl, wordsAgain⟩ := Words.oneAhead _ _ _ _ words
  obtain ⟨annotated, rfl, annotationsAgain⟩ := AnnotationPhrases.oneAhead _ _ _ annotations
  refine ⟨.word kind.keyword :: (annotated ++ (modified ++ (typed ++ [.word f.name]))), by simp, fun rest' _ => ?_⟩
  simp only [List.append_assoc, List.cons_append, List.nil_append]
  have head : (.word f.name :: rest').head? = (Token.word f.name :: rest).head? := rfl
  have head₁ := head?_append_congr typed head
  have head₂ := head?_append_congr modified head₁
  exact .start modifiers (annotationsAgain _ head₂) (wordsAgain _ head₁) (typeAgain _ head)

/-- The value is no part of what stands before it. -/
theorem FieldStart.withValue {f : FieldSignature} (start : FieldStart f ts rest) (value : Option String) :
    FieldStart { f with value } ts rest := by
  obtain ⟨modifiers, annotations, words, type⟩ := start
  exact .start modifiers annotations words type

/-- **In the place of a field's value, any expression is the value.** -/
theorem hasValue_field {f : FieldSignature} {v : String} (read : field ts = .ok f) (value : f.value = some v) :
    HasValue .field (fun ts text => field ts = .ok { f with value := some text }) ts := by
  obtain ⟨valued, start, announced⟩ := field_iff_start.mp read
  obtain ⟨taken, rfl, again⟩ := FieldStart.oneAhead f _ _ start
  rw [value] at announced
  refine (hasValue_announced (s := .field) announced).prepend taken fun ts' text head written => ?_
  exact field_iff_start.mpr ⟨ts', (again ts' head).withValue _, written⟩

/-! ## Constructors and methods -/

/-- The line of a constructor or method up to its parameters. -/
inductive MethodStart (m : MethodSignature) : List Token → List Token → Prop where
  | start {words : List String} {annotated modified generic typed bracketed : List Token} :
    ModifiersAre m.modifiers m.kind.keyword m.annotations words → AnnotationPhrases annotated m.annotations modified →
      Words modifierWords modified words generic → OptionalGroup (.punct '<') (.punct '>') generic typed →
      ResultPhrase m.kind typed m.type (.word m.name :: bracketed) →
      MethodStart m (.word m.kind.keyword :: annotated) bracketed

theorem methodLine_iff_start {inAnnotationType : Bool} {m : MethodSignature} :
    MethodLine inAnnotationType ts m ↔
      ∃ bracketed thrown ended throws, MethodStart m ts bracketed ∧
        Bracketed ParameterPhrase bracketed m.parameters thrown ∧
        Announced (.word "throws") (CommaSeparated TypePhrase) thrown throws ended ∧ m.throws = throws.getD [] ∧
        DefaultPhrase inAnnotationType ended m.value [.punct ';'] := by
  constructor
  · rintro ⟨annotations, words, arguments, result, parameters, throws, value, modifiers⟩
    exact ⟨_, _, _, _, .start modifiers annotations words arguments result, parameters, throws, rfl, value⟩
  · rintro ⟨bracketed, thrown, ended, throws, start, parameters, throwsClause, throwsAre, value⟩
    obtain ⟨modifiers, annotations, words, arguments, result⟩ := start
    cases m
    simp only at *
    rw [throwsAre]
    exact .line annotations words arguments result parameters throwsClause value modifiers

theorem ResultPhrase.oneAhead (kind : MethodKind) (type : String) : OneAhead (ResultPhrase kind · type ·) := by
  rintro ts rest (_ | written)
  · exact ⟨[], rfl, fun _ _ => .constructor⟩
  · obtain ⟨taken, rfl, again⟩ := TypePhrase.oneAhead _ _ _ written
    exact ⟨taken, rfl, fun rest' head => .method (again rest' head)⟩

theorem MethodStart.oneAhead (m : MethodSignature) : OneAhead (MethodStart m) := by
  rintro ts rest ⟨modifiers, annotations, words, arguments, result⟩
  obtain ⟨typed, rfl, resultAgain⟩ := ResultPhrase.oneAhead _ _ _ _ result
  obtain ⟨generic, rfl, argumentsAgain⟩ := OptionalGroup.oneAhead _ _ _ _ arguments
  obtain ⟨modified, rfl, wordsAgain⟩ := Words.oneAhead _ _ _ _ words
  obtain ⟨annotated, rfl, annotationsAgain⟩ := AnnotationPhrases.oneAhead _ _ _ annotations
  refine ⟨.word m.kind.keyword :: (annotated ++ (modified ++ (generic ++ (typed ++ [.word m.name])))), by simp,
    fun rest' _ => ?_⟩
  simp only [List.append_assoc, List.cons_append, List.nil_append]
  have head : (.word m.name :: rest').head? = (Token.word m.name :: rest).head? := rfl
  have head₁ := head?_append_congr typed head
  have head₂ := head?_append_congr generic head₁
  have head₃ := head?_append_congr modified head₂
  exact .start modifiers (annotationsAgain _ head₃) (wordsAgain _ head₂) (argumentsAgain _ head₁) (resultAgain _ head)

/-- Neither the parameters nor a default are part of what stands before them. -/
theorem MethodStart.withValues {m : MethodSignature} (start : MethodStart m ts rest) (parameters : List Parameter)
    (value : Option String) : MethodStart { m with parameters, value } ts rest := by
  obtain ⟨modifiers, annotations, words, arguments, result⟩ := start
  exact .start modifiers annotations words arguments result

theorem ParameterStart.withValue {p : Parameter} (start : ParameterStart p ts rest) (value : Option String) :
    ParameterStart { p with value } ts rest := by
  cases start with
  | start typeIs vararg annotations type dots nullability name =>
    exact .start typeIs vararg annotations type dots nullability name

theorem hasValue_parameterPhrase {p : Parameter} {v : String} (written : ParameterPhrase ts p rest)
    (value : p.value = some v) :
    HasValue .parameter (fun ts text => ParameterPhrase ts { p with value := some text } rest) ts := by
  obtain ⟨valued, start, announced⟩ := parameterPhrase_iff.mp written
  obtain ⟨taken, rfl, again⟩ := ParameterStart.oneAhead p _ _ start
  rw [value] at announced
  refine (hasValue_announced (s := .parameter) announced).prepend taken fun ts' text head written => ?_
  exact parameterPhrase_iff.mpr ⟨ts', (again ts' head).withValue _, written⟩

theorem hasValue_untilBracket {ps : List Parameter} {i : Nat} {p : Parameter} {v : String}
    (written : UntilBracket ParameterPhrase ts ps rest) (given : ps[i]? = some p) (value : p.value = some v) :
    HasValue .parameter
      (fun ts text => UntilBracket ParameterPhrase ts (ps.set i { p with value := some text }) rest) ts := by
  induction written generalizing i with
  | last one =>
    cases i with
    | succ => cases given
    | zero =>
      cases given
      exact (hasValue_parameterPhrase one value).prepend [] fun ts' text _ again => .last again
  | @more ts left rest q qs one others ih =>
    cases i with
    | zero =>
      cases given
      exact (hasValue_parameterPhrase one value).prepend [] fun ts' text _ again => .more again others
    | succ i =>
      obtain ⟨taken, rfl, again⟩ := ParameterPhrase.oneAhead _ _ _ one
      rw [List.append_cons]
      refine (ih given).prepend _ fun ts' text _ others => ?_
      rw [List.append_assoc]
      exact .more (again _ rfl) others

theorem hasValue_bracketed {ps : List Parameter} {i : Nat} {p : Parameter} {v : String}
    (written : Bracketed ParameterPhrase ts ps rest) (given : ps[i]? = some p) (value : p.value = some v) :
    HasValue .parameter
      (fun ts text => Bracketed ParameterPhrase ts (ps.set i { p with value := some text }) rest) ts := by
  cases written with
  | none => cases given
  | some absent written =>
    refine (hasValue_untilBracket written given value).prepend [.punct '('] fun ts' text head again => ?_
    exact .some (head ▸ absent) again

/-- **In the place of a parameter's value, any expression is its value.** -/
theorem hasValue_parameter {inAnnotationType : Bool} {m : MethodSignature} {i : Nat} {p : Parameter} {v : String}
    (read : method inAnnotationType ts = .ok m) (given : m.parameters[i]? = some p) (value : p.value = some v) :
    HasValue .parameter
      (fun ts text => method inAnnotationType ts =
        .ok { m with parameters := m.parameters.set i { p with value := some text } }) ts := by
  obtain ⟨bracketed, thrown, ended, throws, start, parameters, others⟩ := methodLine_iff_start.mp (method_eq_ok.mp read)
  obtain ⟨taken, rfl, again⟩ := MethodStart.oneAhead m _ _ start
  refine (hasValue_bracketed parameters given value).prepend taken fun ts' text head written => ?_
  have start := (again ts' head).withValues (m.parameters.set i { p with value := some text }) m.value
  exact method_eq_ok.mpr (methodLine_iff_start.mpr ⟨ts', thrown, ended, throws, start, written, others⟩)

/-- **In the place of an element's default, any expression is the default.** -/
theorem hasValue_default {inAnnotationType : Bool} {m : MethodSignature} {v : String}
    (read : method inAnnotationType ts = .ok m) (value : m.value = some v) :
    HasValue .default (fun ts text => method inAnnotationType ts = .ok { m with value := some text }) ts := by
  obtain ⟨bracketed, thrown, ended, throws, start, parameters, throwsClause, throwsAre, default⟩ :=
    methodLine_iff_start.mp (method_eq_ok.mp read)
  rw [value] at default
  cases default with
  | element announced =>
    have types := CommaSeparated.oneAhead TypePhrase.oneAhead
    obtain ⟨clause, rfl, throwsAgain⟩ := Announced.oneAhead _ types _ _ _ throwsClause
    obtain ⟨brackets, rfl, parametersAgain⟩ := Bracketed.oneAhead ParameterPhrase.oneAhead _ _ _ parameters
    obtain ⟨taken, rfl, startAgain⟩ := MethodStart.oneAhead m _ _ start
    have again (ts' : List Token) (text : String) (head : ts'.head? = ended.head?)
        (written : Announced ValueSyntax.default.announcer (Expression ValueSyntax.default.terminators) ts' (some text)
          [.punct ';']) :
        method true (taken ++ (brackets ++ clause) ++ ts') = .ok { m with value := some text } := by
      have head₁ := head?_append_congr clause head
      have head₂ := head?_append_congr brackets head₁
      have start := (startAgain _ head₂).withValues m.parameters (some text)
      simp only [List.append_assoc]
      exact method_eq_ok.mpr (methodLine_iff_start.mpr ⟨_, _, _, throws, start, parametersAgain _ head₁,
        throwsAgain _ head, throwsAre, .element written⟩)
    rw [← List.append_assoc brackets, ← List.append_assoc]
    exact (hasValue_announced (s := .default) announced).prepend (taken ++ (brackets ++ clause)) again

end SignatureLint.Grammar
