import SignatureLint.Proofs.Grammar.Member

/-!
# One token ahead

A phrase is read up to where it ends, and asks no more of what comes after it than the first token (`OneAhead`): its
tokens mean the same before any other tokens with that first one. Phrases that follow one another, options and
repetitions look one token ahead if their parts do, and so do the parts of a member's line.
-/

namespace SignatureLint.Grammar

/-- The tokens that a step takes are taken alike whatever comes after the next token. -/
def OneAhead (step : List Token → List Token → Prop) : Prop :=
  ∀ ts rest, step ts rest →
    ∃ taken, ts = taken ++ rest ∧ ∀ rest', rest'.head? = rest.head? → step (taken ++ rest') rest'

theorem OneAhead.suffix {step : List Token → List Token → Prop} (ahead : OneAhead step) {ts rest : List Token}
    (taken : step ts rest) : rest <:+ ts := by
  obtain ⟨front, same, -⟩ := ahead ts rest taken
  exact ⟨front, same.symm⟩

/-- Behind the same tokens, texts with one first token have one first token. -/
theorem head?_append_congr (taken : List Token) {rest rest' : List Token} (head : rest'.head? = rest.head?) :
    (taken ++ rest').head? = (taken ++ rest).head? := by
  rw [List.head?_append, List.head?_append, head]

/-! ## Options and repetitions -/

section

variable {α : Type} {p : Phrase α}

theorem OptionalToken.oneAhead (t : Token) (given : Bool) : OneAhead (OptionalToken t · given ·) := by
  rintro ts rest (_ | absent)
  · exact ⟨[t], rfl, fun _ _ => .given⟩
  · exact ⟨[], rfl, fun _ head => .none (head ▸ absent)⟩

theorem OptionalGroup.oneAhead (opening closing : Token) : OneAhead (OptionalGroup opening closing) := by
  rintro ts rest (@⟨inner, _, balanced⟩ | absent)
  · refine ⟨opening :: (inner ++ [closing]), by simp, fun rest' _ => ?_⟩
    rw [List.cons_append, List.append_assoc]
    exact .group balanced
  · exact ⟨[], rfl, fun _ head => .none (head ▸ absent)⟩

theorem Announced.oneAhead (announced : Token) (ahead : ∀ a, OneAhead (p · a ·)) (given : Option α) :
    OneAhead (Announced announced p · given ·) := by
  rintro ts rest (inner | absent)
  · obtain ⟨taken, rfl, again⟩ := ahead _ _ _ inner
    exact ⟨announced :: taken, rfl, fun rest' head => .given (again rest' head)⟩
  · exact ⟨[], rfl, fun _ head => .none (head ▸ absent)⟩

theorem Repeated.oneAhead (announced : Token) (ahead : ∀ a, OneAhead (p · a ·)) (as : List α) :
    OneAhead (Repeated announced p · as ·) := by
  intro ts rest written
  induction written with
  | more inner _ ih =>
    obtain ⟨more, rfl, others⟩ := ih
    obtain ⟨taken, rfl, again⟩ := ahead _ _ _ inner
    refine ⟨announced :: (taken ++ more), by simp, fun rest' head => ?_⟩
    rw [List.cons_append, List.append_assoc]
    exact .more (again _ (head?_append_congr _ head)) (others rest' head)
  | done absent => exact ⟨[], rfl, fun _ head => .done (head ▸ absent)⟩

theorem CommaSeparated.oneAhead (ahead : ∀ a, OneAhead (p · a ·)) (as : List α) :
    OneAhead (CommaSeparated p · as ·) := by
  rintro ts rest ⟨first, more⟩
  obtain ⟨left, rfl, others⟩ := Repeated.oneAhead _ ahead _ _ _ more
  obtain ⟨taken, rfl, again⟩ := ahead _ _ _ first
  refine ⟨taken ++ left, by simp, fun rest' head => ?_⟩
  rw [List.append_assoc]
  exact .elements (again _ (head?_append_congr _ head)) (others rest' head)

theorem UntilBracket.oneAhead (ahead : ∀ a, OneAhead (p · a ·)) (as : List α) : OneAhead (UntilBracket p · as ·) := by
  intro ts rest written
  induction written with
  | last inner =>
    obtain ⟨taken, rfl, again⟩ := ahead _ _ _ inner
    refine ⟨taken ++ [.punct ')'], by simp, fun rest' _ => ?_⟩
    rw [List.append_assoc]
    exact .last (again _ rfl)
  | more inner _ ih =>
    obtain ⟨left, rfl, others⟩ := ih
    obtain ⟨taken, rfl, again⟩ := ahead _ _ _ inner
    refine ⟨taken ++ .punct ',' :: left, by simp, fun rest' head => ?_⟩
    rw [List.append_assoc]
    exact .more (again _ rfl) (others rest' head)

theorem Bracketed.oneAhead (ahead : ∀ a, OneAhead (p · a ·)) (as : List α) : OneAhead (Bracketed p · as ·) := by
  rintro ts rest (_ | ⟨absent, written⟩)
  · exact ⟨[.punct '(', .punct ')'], rfl, fun _ _ => .none⟩
  · obtain ⟨taken, rfl, again⟩ := UntilBracket.oneAhead ahead _ _ _ written
    refine ⟨.punct '(' :: taken, rfl, fun rest' head => .some (fun closed => absent ?_) (again rest' head)⟩
    exact (head?_append_congr _ head).symm.trans closed

theorem Words.oneAhead (allowed texts : List String) : OneAhead (Words allowed · texts ·) := by
  intro ts rest written
  induction written with
  | more mem _ ih =>
    obtain ⟨taken, rfl, again⟩ := ih
    exact ⟨_ :: taken, rfl, fun rest' head => .more mem (again rest' head)⟩
  | done absent => exact ⟨[], rfl, fun _ head => .done (head ▸ absent)⟩

end

/-! ## Annotations and types -/

theorem AnnotationPhrase.oneAhead (text : String) : OneAhead (AnnotationPhrase · text ·) := by
  rintro ts rest ⟨arguments⟩
  obtain ⟨taken, rfl, again⟩ := OptionalGroup.oneAhead _ _ _ _ arguments
  exact ⟨_ :: taken, rfl, fun rest' head => .named (again rest' head)⟩

theorem AnnotationPhrases.oneAhead (texts : List String) : OneAhead (AnnotationPhrases · texts ·) :=
  Repeated.oneAhead .atSign AnnotationPhrase.oneAhead texts

theorem NamePhrase.oneAhead (name : String) : OneAhead (NamePhrase · name ·) := by
  rintro ts rest (undotted | @⟨first, second, _, _, _, dotted, annotations⟩)
  · exact ⟨[_], rfl, fun _ _ => .whole undotted⟩
  · obtain ⟨taken, rfl, again⟩ := AnnotationPhrases.oneAhead _ _ _ annotations
    refine ⟨.word first :: (taken ++ [.word second]), by simp, fun rest' _ => ?_⟩
    rw [List.cons_append, List.append_assoc]
    exact .continued dotted (again _ rfl)

theorem SuffixPhrase.oneAhead (dimensions : Nat) : OneAhead (SuffixPhrase · dimensions ·) := by
  intro ts rest written
  cases written with
  | annotated annotation =>
    obtain ⟨taken, rfl, again⟩ := AnnotationPhrase.oneAhead _ _ _ annotation
    exact ⟨.atSign :: taken, rfl, fun rest' head => .annotated (again rest' head)⟩
  | array => exact ⟨[.array], rfl, fun _ _ => .array⟩
  | nullable => exact ⟨[.punct '?'], rfl, fun _ _ => .nullable⟩
  | nonNull => exact ⟨[.punct '!'], rfl, fun _ _ => .nonNull⟩

theorem SuffixPhrases.oneAhead (dimensions : Nat) : OneAhead (SuffixPhrases · dimensions ·) := by
  intro ts rest written
  induction written with
  | more first _ ih =>
    obtain ⟨more, rfl, others⟩ := ih
    obtain ⟨taken, rfl, again⟩ := SuffixPhrase.oneAhead _ _ _ first
    refine ⟨taken ++ more, by simp, fun rest' head => ?_⟩
    rw [List.append_assoc]
    exact .more (again _ (head?_append_congr _ head)) (others rest' head)
  | done absent => exact ⟨[], rfl, fun _ head => .done (head ▸ absent)⟩

theorem TypePhrase.oneAhead (text : String) : OneAhead (TypePhrase · text ·) := by
  rintro ts rest ⟨annotations, name, arguments, suffixes⟩
  obtain ⟨suffixed, rfl, suffixesAgain⟩ := SuffixPhrases.oneAhead _ _ _ suffixes
  obtain ⟨grouped, rfl, argumentsAgain⟩ := OptionalGroup.oneAhead _ _ _ _ arguments
  obtain ⟨named, rfl, nameAgain⟩ := NamePhrase.oneAhead _ _ _ name
  obtain ⟨annotated, rfl, annotationsAgain⟩ := AnnotationPhrases.oneAhead _ _ _ annotations
  refine ⟨annotated ++ (named ++ (grouped ++ suffixed)), by simp, fun rest' head => ?_⟩
  simp only [List.append_assoc]
  have head₁ := head?_append_congr suffixed head
  have head₂ := head?_append_congr grouped head₁
  have head₃ := head?_append_congr named head₂
  exact .type (annotationsAgain _ head₃) (nameAgain _ head₂) (argumentsAgain _ head₁) (suffixesAgain _ head)

/-! ## Parameters -/

theorem OptionalNullability.oneAhead : OneAhead OptionalNullability := by
  rintro ts rest (_ | _ | ⟨noNullable, noNonNull⟩)
  · exact ⟨[.punct '?'], rfl, fun _ _ => .nullable⟩
  · exact ⟨[.punct '!'], rfl, fun _ _ => .nonNull⟩
  · exact ⟨[], rfl, fun _ head => .none (head ▸ noNullable) (head ▸ noNonNull)⟩

theorem OptionalName.oneAhead (name : Option String) : OneAhead (OptionalName · name ·) := by
  rintro ts rest (_ | absent)
  · exact ⟨[_], rfl, fun _ _ => .given⟩
  · exact ⟨[], rfl, fun _ head => .none (head ▸ absent)⟩

theorem Expression.oneAhead (terminators : List Token) (text : String) :
    OneAhead (Expression terminators · text ·) := by
  rintro ts rest @⟨written, _, t, filled, closed, mem, inside⟩
  refine ⟨written, rfl, fun rest' head => ?_⟩
  obtain ⟨rest', rfl⟩ := List.head?_eq_some_iff.mp head
  exact .upTo filled closed mem inside

/-- A parameter up to its value. -/
inductive ParameterStart (p : Parameter) : List Token → List Token → Prop where
  | start {ts annotated typed dotted marked named rest : List Token} {vararg variadic : Bool} {type : String} :
    p.type = (if variadic then type ++ "..." else type) → OptionalToken (.word "vararg") ts vararg annotated →
      AnnotationPhrases annotated p.annotations typed → TypePhrase typed type dotted →
      OptionalToken .ellipsis dotted variadic marked → OptionalNullability marked named →
      OptionalName named p.name rest → ParameterStart p ts rest

theorem parameterPhrase_iff {p : Parameter} {ts rest : List Token} :
    ParameterPhrase ts p rest ↔
      ∃ valued, ParameterStart p ts valued ∧
        Announced (.punct '=') (Expression [.punct ',', .punct ')']) valued p.value rest := by
  constructor
  · rintro ⟨vararg, annotations, type, dots, nullability, name, value⟩
    exact ⟨_, .start rfl vararg annotations type dots nullability name, value⟩
  · rintro ⟨valued, start, value⟩
    cases start with
    | start typeIs vararg annotations type dots nullability name =>
      have written := ParameterPhrase.parameter vararg annotations type dots nullability name value
      rwa [← typeIs] at written

theorem ParameterStart.oneAhead (p : Parameter) : OneAhead (ParameterStart p) := by
  rintro ts rest ⟨typeIs, vararg, annotations, type, dots, nullability, name⟩
  obtain ⟨named, rfl, nameAgain⟩ := OptionalName.oneAhead _ _ _ name
  obtain ⟨marked, rfl, nullabilityAgain⟩ := OptionalNullability.oneAhead _ _ nullability
  obtain ⟨dotted, rfl, dotsAgain⟩ := OptionalToken.oneAhead _ _ _ _ dots
  obtain ⟨typed, rfl, typeAgain⟩ := TypePhrase.oneAhead _ _ _ type
  obtain ⟨annotated, rfl, annotationsAgain⟩ := AnnotationPhrases.oneAhead _ _ _ annotations
  obtain ⟨taken, rfl, varargAgain⟩ := OptionalToken.oneAhead _ _ _ _ vararg
  refine ⟨taken ++ (annotated ++ (typed ++ (dotted ++ (marked ++ named)))), by simp, fun rest' head => ?_⟩
  simp only [List.append_assoc]
  have head₁ := head?_append_congr named head
  have head₂ := head?_append_congr marked head₁
  have head₃ := head?_append_congr dotted head₂
  have head₄ := head?_append_congr typed head₃
  have head₅ := head?_append_congr annotated head₄
  exact .start typeIs (varargAgain _ head₅) (annotationsAgain _ head₄) (typeAgain _ head₃) (dotsAgain _ head₂)
    (nullabilityAgain _ head₁) (nameAgain _ head)

theorem ParameterPhrase.oneAhead (p : Parameter) : OneAhead (ParameterPhrase · p ·) := by
  intro ts rest written
  obtain ⟨valued, start, value⟩ := parameterPhrase_iff.mp written
  obtain ⟨announced, rfl, valueAgain⟩ := Announced.oneAhead _ (Expression.oneAhead _) _ _ _ value
  obtain ⟨taken, rfl, startAgain⟩ := ParameterStart.oneAhead p _ _ start
  refine ⟨taken ++ announced, by simp, fun rest' head => ?_⟩
  rw [List.append_assoc]
  exact parameterPhrase_iff.mpr ⟨_, startAgain _ (head?_append_congr _ head), valueAgain _ head⟩

end SignatureLint.Grammar
