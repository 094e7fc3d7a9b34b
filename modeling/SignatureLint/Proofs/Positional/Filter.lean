import SignatureLint.Positional.Filter
import SignatureLint.Proofs.Grammar.Parts

/-!
# Phrases without type arguments and annotations

Format 1 reads a line without its type arguments and annotations. Those that a phrase of format 2 has are gone with
no trace (`plainTokens_optionalGroup`, `plainTokens_annotations`), so a type is left with its reference
(`plainTokens_reference`). `Survives p q f ok` says that a phrase `p`, where it is `ok`, is left as a phrase `q` that
means what `f` makes of its meaning. Phrases that are made of others survive as these do, one law for each way of
making them.
-/

namespace SignatureLint.Positional

open Grammar

variable {ts rest : List Token}

/-! ## Tokens -/

/-- The token opens no type arguments and no annotation. -/
def IsPlain (t : Token) : Prop := t ≠ .punct '<' ∧ t ≠ .atSign

instance (t : Token) : Decidable (IsPlain t) := inferInstanceAs (Decidable (_ ∧ _))

theorem isPlain_word (text : String) : IsPlain (.word text) := ⟨nofun, nofun⟩

@[simp]
theorem plainTokens_nil (depth : Nat) : plainTokens depth [] = [] := by rw [plainTokens]

theorem plainTokens_cons {t : Token} (plain : IsPlain t) : plainTokens 0 (t :: rest) = t :: plainTokens 0 rest := by
  rw [plainTokens]
  · exact fun same => plain.1 same
  · exact fun same => plain.2 same

@[simp]
theorem plainTokens_word (text : String) : plainTokens 0 (.word text :: rest) = .word text :: plainTokens 0 rest :=
  plainTokens_cons (isPlain_word text)

theorem plainTokens_append {tokens : List Token} (plain : ∀ t ∈ tokens, IsPlain t) :
    plainTokens 0 (tokens ++ rest) = tokens ++ plainTokens 0 rest := by
  induction tokens with
  | nil => rfl
  | cons t tokens ih =>
    rw [List.cons_append, plainTokens_cons (plain t List.mem_cons_self),
      ih fun u mem => plain u (List.mem_cons_of_mem _ mem)]
    rfl

/-! ## What is taken out -/

/-- Type arguments in pairs of marks leave the depth as it was, and nothing behind. -/
theorem plainTokens_balanced_append {inner : List Token} (balanced : Balanced (.punct '<') (.punct '>') inner)
    (depth : Nat) : plainTokens (depth + 1) (inner ++ rest) = plainTokens (depth + 1) rest := by
  induction balanced generalizing depth rest with
  | nil => rfl
  | other apart apart' _ ih =>
    rw [List.cons_append, plainTokens]
    · exact ih depth
    · exact fun same => apart same
    · exact fun same => apart' same
  | pair _ _ ih ih' => rw [List.cons_append, plainTokens, List.append_assoc, ih, List.cons_append, plainTokens, ih']

theorem plainTokens_optionalGroup (written : OptionalGroup (.punct '<') (.punct '>') ts rest) :
    plainTokens 0 ts = plainTokens 0 rest := by
  cases written with
  | group balanced => rw [plainTokens, plainTokens_balanced_append balanced, plainTokens]
  | none => rfl

theorem afterBrackets_balanced_append {inner : List Token} (balanced : Balanced (.punct '(') (.punct ')') inner)
    (depth : Nat) : afterBrackets depth (inner ++ rest) = afterBrackets depth rest := by
  induction balanced generalizing depth rest with
  | nil => rfl
  | other apart apart' _ ih =>
    rw [List.cons_append, afterBrackets]
    · exact ih depth
    · exact fun same => apart same
    · exact fun _ same => apart' same
    · exact fun _ _ same => apart' same
  | pair _ _ ih ih' => rw [List.cons_append, afterBrackets, List.append_assoc, ih, List.cons_append, afterBrackets, ih']

theorem afterArguments_optionalGroup (written : OptionalGroup (.punct '(') (.punct ')') ts rest) :
    afterArguments ts = rest := by
  cases written with
  | group balanced => rw [afterArguments, afterBrackets_balanced_append balanced, afterBrackets]
  | none absent =>
    unfold afterArguments
    split
    next => exact absurd rfl absent
    next => rfl

theorem plainTokens_atSign {text : String} (written : AnnotationPhrase ts text rest) :
    plainTokens 0 (.atSign :: ts) = plainTokens 0 rest := by
  obtain ⟨arguments⟩ := written
  rw [plainTokens, List.tail_cons, afterArguments_optionalGroup arguments]

theorem plainTokens_annotations {texts : List String} (written : AnnotationPhrases ts texts rest) :
    plainTokens 0 ts = plainTokens 0 rest := by
  induction written with
  | more one _ ih => rw [plainTokens_atSign one, ih]
  | done => rfl

/-! ## What is left -/

theorem plainTokens_words {allowed texts : List String} (written : Words allowed ts texts rest) :
    plainTokens 0 ts = texts.map .word ++ plainTokens 0 rest := by
  induction written with
  | more _ _ ih => rw [plainTokens_word, ih]; rfl
  | done => rfl

theorem plainTokens_name {words : List String} (written : NameWords ts words rest) :
    plainTokens 0 ts = words.map .word ++ plainTokens 0 rest := by
  cases written with
  | whole => exact plainTokens_word _
  | continued _ annotations => rw [plainTokens_word, plainTokens_annotations annotations, plainTokens_word]; rfl

theorem plainTokens_suffixes {suffixes : List Token} (written : SuffixTokens ts suffixes rest) :
    plainTokens 0 ts = suffixes ++ plainTokens 0 rest := by
  induction written with
  | annotated annotation _ ih => rw [plainTokens_atSign annotation, ih]
  | @more t _ _ _ mem _ ih =>
    have plain : ∀ u ∈ Token.array :: nullabilityMarks, IsPlain u := by decide
    rw [plainTokens_cons (plain t mem), ih]
    rfl
  | done => rfl

/-- What is left of a type is its reference. -/
theorem plainTokens_reference {r : Reference} (written : ReferencePhrase ts r rest) :
    plainTokens 0 ts = r.words.map .word ++ (r.suffixes ++ plainTokens 0 rest) := by
  obtain ⟨annotations, name, arguments, suffixes⟩ := written
  rw [plainTokens_annotations annotations, plainTokens_name name, plainTokens_optionalGroup arguments,
    plainTokens_suffixes suffixes]

/-- The type is a word that goes on nowhere. -/
def Undotted (r : Reference) : Prop := ∀ word ∈ r.words, word.toList.getLast? ≠ some '.'

instance (r : Reference) : Decidable (Undotted r) := inferInstanceAs (Decidable (∀ word ∈ r.words, _))

/-- An undotted type is left as one word with its suffixes. -/
theorem plainTokens_undotted {r : Reference} (written : ReferencePhrase ts r rest) (undotted : Undotted r) :
    ∃ name, r.words = [name] ∧ plainTokens 0 ts = .word name :: (r.suffixes ++ plainTokens 0 rest) := by
  have plain := plainTokens_reference written
  obtain ⟨-, @⟨name, _, whole⟩ | ⟨dotted, -⟩, -, -⟩ := written
  · exact ⟨name, rfl, plain⟩
  · exact absurd dotted (undotted _ List.mem_cons_self)

/-! ## What comes next -/

/-- The first token is left as it is. -/
def StartsPlain (ts : List Token) : Prop := ∀ t ∈ ts.head?, IsPlain t

theorem startsPlain_cons {t : Token} (plain : IsPlain t) : StartsPlain (t :: rest) := by
  rintro _ ⟨⟩
  exact plain

theorem StartsPlain.head?_eq (starts : StartsPlain ts) : (plainTokens 0 ts).head? = ts.head? := by
  cases ts with
  | nil => rw [plainTokens_nil]
  | cons t ts => rw [plainTokens_cons (starts t rfl)]; rfl

section

variable {α : Type} {p : Phrase α}

theorem StartsPlain.of_optionalToken {t : Token} {given : Bool} (plain : IsPlain t) (starts : StartsPlain rest)
    (written : OptionalToken t ts given rest) : StartsPlain ts := by
  cases written with
  | given => exact startsPlain_cons plain
  | none => exact starts

theorem StartsPlain.of_announced {t : Token} {given : Option α} (plain : IsPlain t) (starts : StartsPlain rest)
    (written : Announced t p ts given rest) : StartsPlain ts := by
  cases written with
  | given => exact startsPlain_cons plain
  | none => exact starts

theorem StartsPlain.of_repeated {t : Token} {as : List α} (plain : IsPlain t) (starts : StartsPlain rest)
    (written : Repeated t p ts as rest) : StartsPlain ts := by
  cases written with
  | more => exact startsPlain_cons plain
  | done => exact starts

theorem StartsPlain.of_optionalName {name : Option String} (starts : StartsPlain rest)
    (written : OptionalName ts name rest) : StartsPlain ts := by
  cases written with
  | given => exact startsPlain_cons (isPlain_word _)
  | none => exact starts

end

/-! ## Phrases that survive -/

/-- Where it is `ok`, the phrase `p` is left as a phrase `q` that means what `f` makes of its meaning. What comes after
it must not change its first token, which may be what ends `q`. -/
def Survives {α β : Type} (p : Phrase α) (q : Phrase β) (f : α → β) (ok : α → Prop) : Prop :=
  ∀ ts a rest, p ts a rest → ok a → StartsPlain rest → q (plainTokens 0 ts) (f a) (plainTokens 0 rest)

section

variable {α β : Type} {p : Phrase α} {q : Phrase β} {f : α → β} {ok : α → Prop} {t : Token}

theorem optionalToken_plainTokens {given : Bool} (plain : IsPlain t) (starts : StartsPlain rest)
    (written : OptionalToken t ts given rest) : OptionalToken t (plainTokens 0 ts) given (plainTokens 0 rest) := by
  cases written with
  | given => rw [plainTokens_cons plain]; exact .given
  | none absent => exact .none (by rwa [starts.head?_eq])

theorem Survives.announced (survives : Survives p q f ok) (plain : IsPlain t) :
    Survives (Announced t p) (Announced t q) (Option.map f) fun given => ∀ a ∈ given, ok a := by
  rintro _ _ _ (written | absent) all starts
  · rw [plainTokens_cons plain]
    exact .given (survives _ _ _ written (all _ rfl) starts)
  · exact .none (by rwa [starts.head?_eq])

theorem Survives.repeated (survives : Survives p q f ok) (plain : IsPlain t) :
    Survives (Repeated t p) (Repeated t q) (List.map f) fun as => ∀ a ∈ as, ok a := by
  intro ts as rest written all starts
  induction written with
  | more one others ih =>
    rw [plainTokens_cons plain]
    have one := survives _ _ _ one (all _ List.mem_cons_self) (starts.of_repeated plain others)
    exact .more one (ih (fun a mem => all a (List.mem_cons_of_mem _ mem)) starts)
  | done absent => exact .done (by rwa [starts.head?_eq])

theorem Survives.commaSeparated (survives : Survives p q f ok) :
    Survives (CommaSeparated p) (CommaSeparated q) (List.map f) fun as => ∀ a ∈ as, ok a := by
  rintro _ _ _ ⟨one, others⟩ all starts
  have plain : IsPlain (.punct ',') := by decide
  have one := survives _ _ _ one (all _ List.mem_cons_self) (starts.of_repeated plain others)
  exact .elements one (survives.repeated plain _ _ _ others (fun a mem => all a (List.mem_cons_of_mem _ mem)) starts)

theorem Survives.untilBracket (survives : Survives p q f ok) {as : List α} (written : UntilBracket p ts as rest)
    (all : ∀ a ∈ as, ok a) : UntilBracket q (plainTokens 0 ts) (as.map f) (plainTokens 0 rest) := by
  have comma : IsPlain (.punct ',') := by decide
  have bracket : IsPlain (.punct ')') := by decide
  induction written with
  | last one =>
    have one := survives _ _ _ one (all _ List.mem_cons_self) (startsPlain_cons bracket)
    rw [plainTokens_cons bracket] at one
    exact .last one
  | more one _ ih =>
    have one := survives _ _ _ one (all _ List.mem_cons_self) (startsPlain_cons comma)
    rw [plainTokens_cons comma] at one
    exact .more one (ih fun a mem => all a (List.mem_cons_of_mem _ mem))

/-- Brackets survive with what is between them, unless this can look like the closing one. -/
theorem Survives.bracketed (survives : Survives p q f ok) (opens : ∀ {ts b rest}, ¬ q (.punct ')' :: ts) b rest)
    {as : List α} (written : Bracketed p ts as rest) (all : ∀ a ∈ as, ok a) :
    Bracketed q (plainTokens 0 ts) (as.map f) (plainTokens 0 rest) := by
  have opening : IsPlain (.punct '(') := by decide
  have closing : IsPlain (.punct ')') := by decide
  rcases written with _ | ⟨-, inner⟩
  · rw [plainTokens_cons opening, plainTokens_cons closing]
    exact .none
  · rw [plainTokens_cons opening]
    have inner := survives.untilBracket inner all
    refine .some (fun next => ?_) inner
    obtain ⟨left, same⟩ := List.head?_eq_some_iff.mp next
    rw [same] at inner
    generalize as.map f = bs at inner
    cases inner with
    | last one => exact opens one
    | more one => exact opens one

/-- A value without type arguments and annotations is left as it is. -/
theorem survives_value (terminators : List Token) :
    Survives (ValueTokens terminators) (Expression terminators) spaced fun tokens => ∀ t ∈ tokens, IsPlain t := by
  rintro _ _ _ ⟨filled, closed, mem, inside⟩ all starts
  rw [plainTokens_append all, plainTokens_cons (starts _ rfl)]
  exact .upTo filled closed mem inside

end

end SignatureLint.Positional
