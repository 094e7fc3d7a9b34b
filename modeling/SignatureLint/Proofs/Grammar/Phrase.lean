import SignatureLint.Grammar.Type

/-!
# Phrases

The grammar as it is written, apart from how it is read. A phrase relates the tokens that start with it to
what it means and to the tokens after it. Every option and every repetition is greedy: it is left out, or
ends, only where its first token is not next. Here are the phrases that others are made of: bracketed
groups, options and repetitions that a token announces, words that are allowed, and values.

Each phrase is what its step reads: `skipGroup_eq_ok`, `wordsAmong_eq`, `value_eq_ok` and
`valueAfter_eq_ok` hold in both directions.
-/

namespace SignatureLint.Grammar

/-- A phrase: `p ts a rest` says that `ts` starts with the phrase, that it means `a`, and that `rest` is what
comes after it. -/
abbrev Phrase (α : Type) := List Token → α → List Token → Prop

/-! ## The written grammar -/

/-- Tokens in which the brackets of one kind stand in pairs. -/
inductive Balanced (opening closing : Token) : List Token → Prop where
  | nil : Balanced opening closing []
  | other {t : Token} {ts : List Token} :
    t ≠ opening → t ≠ closing → Balanced opening closing ts → Balanced opening closing (t :: ts)
  | pair {inner ts : List Token} :
    Balanced opening closing inner → Balanced opening closing ts →
      Balanced opening closing (opening :: (inner ++ closing :: ts))

/-- A token that may be left out, and whether it is there. -/
inductive OptionalToken (t : Token) : Phrase Bool where
  | given {rest : List Token} : OptionalToken t (t :: rest) true rest
  | none {ts : List Token} : ts.head? ≠ some t → OptionalToken t ts false ts

/-- A bracketed group that may be left out. -/
inductive OptionalGroup (opening closing : Token) : List Token → List Token → Prop where
  | group {inner rest : List Token} :
    Balanced opening closing inner → OptionalGroup opening closing (opening :: (inner ++ closing :: rest)) rest
  | none {ts : List Token} : ts.head? ≠ some opening → OptionalGroup opening closing ts ts

/-- A phrase after the token that announces it; both may be left out. -/
inductive Announced {α : Type} (announced : Token) (p : Phrase α) : Phrase (Option α) where
  | given {ts rest : List Token} {a : α} : p ts a rest → Announced announced p (announced :: ts) (some a) rest
  | none {ts : List Token} : ts.head? ≠ some announced → Announced announced p ts none ts

/-- A phrase as often as the token that announces it stands before it. -/
inductive Repeated {α : Type} (announced : Token) (p : Phrase α) : Phrase (List α) where
  | more {ts rest rest' : List Token} {a : α} {as : List α} :
    p ts a rest → Repeated announced p rest as rest' → Repeated announced p (announced :: ts) (a :: as) rest'
  | done {ts : List Token} : ts.head? ≠ some announced → Repeated announced p ts [] ts

/-- Words among the allowed ones, as many as stand here. -/
inductive Words (allowed : List String) : Phrase (List String) where
  | more {text : String} {ts rest : List Token} {texts : List String} :
    text ∈ allowed → Words allowed ts texts rest → Words allowed (.word text :: ts) (text :: texts) rest
  | done {ts : List Token} : (∀ text ∈ allowed, ts.head? ≠ some (.word text)) → Words allowed ts [] ts

/-- The modifiers of a declaration are its words, its kind, and `deprecated` if it is annotated so. -/
def ModifiersAre (modifiers : Modifiers) (kind : String) (annotations words : List String) : Prop :=
  ∀ word, modifiers.has word = true ↔
    word ∈ words ∨ word = kind ∨ (word = "deprecated" ∧ "@Deprecated" ∈ annotations)

/-- How many round and curly brackets are open after the tokens. -/
def depthOf (ts : List Token) : Nat := ts.foldl depthAfter 0

/-- The text of some tokens, up to the first terminator that stands outside all brackets. -/
inductive Expression (terminators : List Token) : Phrase String where
  | upTo {written rest : List Token} {t : Token} :
    written ≠ [] → depthOf written = 0 → t ∈ terminators →
      (∀ before u after, written = before ++ u :: after → depthOf before = 0 → u ∉ terminators) →
      Expression terminators (written ++ t :: rest) (spaced written) (t :: rest)

/-! ## Groups -/

section

variable {opening closing : Token} {ts rest : List Token}

/-- What closes an open group stands after tokens in which brackets are paired. -/
theorem balanced_of_afterGroup {depth : Nat} {ts : List Token}
    (closed : afterGroup opening closing (depth + 1) ts = some rest) :
    ∃ inner left, Balanced opening closing inner ∧ ts = inner ++ closing :: left ∧
      afterGroup opening closing depth left = some rest := by
  match ts with
  | [] => cases closed
  | t :: ts =>
    rw [afterGroup] at closed
    split at closed
    next opens =>
      -- the inner group is closed first, and then the one that was open before it
      obtain ⟨inner, left, balanced, rfl, outer⟩ := balanced_of_afterGroup closed
      obtain ⟨inner', left', balanced', rfl, outside⟩ := balanced_of_afterGroup outer
      refine ⟨t :: (inner ++ closing :: inner'), left', ?_, by simp, outside⟩
      rw [opens]
      exact .pair balanced balanced'
    next apart =>
      split at closed
      next closes => exact ⟨[], ts, .nil, by rw [closes]; rfl, closed⟩
      next apart' =>
        obtain ⟨inner, left, balanced, rfl, outside⟩ := balanced_of_afterGroup closed
        exact ⟨t :: inner, left, .other apart apart' balanced, rfl, outside⟩
termination_by ts.length

/-- Tokens in which brackets are paired close no group that was open before them. -/
theorem afterGroup_balanced_append (differ : opening ≠ closing) {inner : List Token}
    (balanced : Balanced opening closing inner) (depth : Nat) (left : List Token) :
    afterGroup opening closing (depth + 1) (inner ++ left) = afterGroup opening closing (depth + 1) left := by
  induction balanced generalizing depth left with
  | nil => rfl
  | other apart apart' _ ih => rw [List.cons_append, afterGroup, if_neg apart, if_neg apart', ih]
  | @pair inner ts _ _ ih ih' =>
    rw [List.cons_append, afterGroup, if_pos rfl, List.append_assoc, ih, List.cons_append, afterGroup,
      if_neg differ.symm, if_pos rfl, ih']

theorem afterGroup_one_eq_some (differ : opening ≠ closing) :
    afterGroup opening closing 1 ts = some rest ↔
      ∃ inner, Balanced opening closing inner ∧ ts = inner ++ closing :: rest := by
  constructor
  · intro closed
    obtain ⟨inner, left, balanced, same, left_eq⟩ := balanced_of_afterGroup closed
    rw [afterGroup] at left_eq
    cases left_eq
    exact ⟨inner, balanced, same⟩
  · rintro ⟨inner, balanced, rfl⟩
    rw [afterGroup_balanced_append differ balanced, afterGroup, if_neg differ.symm, if_pos rfl, afterGroup]

/-- A group that may be left out is read as it is written. -/
theorem skipGroup_eq_ok (differ : opening ≠ closing) :
    skipGroup opening closing ts = .ok rest ↔ OptionalGroup opening closing ts rest := by
  constructor
  · intro read
    unfold skipGroup at read
    split at read
    · cases read
      exact .none nofun
    next t ts =>
      split at read
      next opens =>
        split at read
        next left closed =>
          cases read
          obtain ⟨inner, balanced, rfl⟩ := (afterGroup_one_eq_some differ).mp closed
          rw [opens]
          exact .group balanced
        next => cases read
      next apart =>
        cases read
        exact .none (by simpa using apart)
  · rintro (@⟨inner, _, balanced⟩ | absent)
    · rw [skipGroup, if_pos rfl, (afterGroup_one_eq_some differ).mpr ⟨inner, balanced, rfl⟩]
    · cases ts with
      | nil => rfl
      | cons t ts => rw [skipGroup, if_neg (by simpa using absent)]

end

/-! ## Tokens and words -/

/-- Answers of a reading can be compared, where its errors cannot. -/
theorem eq_ok_of_toOption {ε α : Type} {x : Except ε α} {a : α} (answered : x.toOption = some a) : x = .ok a := by
  cases x with
  | error e => cases answered
  | ok b =>
    cases answered
    rfl

section

variable {t : Token} {ts rest : List Token}

theorem expect_eq_ok : expect t ts = .ok rest ↔ ts = t :: rest := by
  cases ts with
  | nil => simp [expect]
  | cons u ts =>
    rw [expect]
    split
    next same => simp [same]
    next differ => simp [differ]

theorem finish_eq_ok {u : Unit} : finish ts = .ok u ↔ ts = [] := by
  cases ts <;> simp [finish]

theorem word_eq_ok {wanted : Wanted} {text : String} :
    word wanted ts = .ok (text, rest) ↔ ts = .word text :: rest := by
  unfold word
  split <;> simp_all

theorem takeIf_self : takeIf t (t :: ts) = (true, ts) := if_pos rfl

theorem takeIf_of_head? (absent : ts.head? ≠ some t) : takeIf t ts = (false, ts) := by
  cases ts with
  | nil => rfl
  | cons u ts => exact if_neg (by simpa using absent)

/-- The token is next, or it is not. -/
theorem head?_cases (t : Token) (ts : List Token) : (∃ left, ts = t :: left) ∨ ts.head? ≠ some t := by
  cases ts with
  | nil => exact .inr nofun
  | cons u ts =>
    by_cases same : u = t
    · exact .inl ⟨ts, by rw [same]⟩
    · exact .inr (by simpa using same)

theorem takeIf_eq {given : Bool} : takeIf t ts = (given, rest) ↔ OptionalToken t ts given rest := by
  rcases head?_cases t ts with ⟨left, rfl⟩ | absent
  · rw [takeIf_self]
    constructor
    · rintro ⟨⟩
      exact .given
    · rintro (_ | absent)
      · rfl
      · exact absurd rfl absent
  · rw [takeIf_of_head? absent]
    constructor
    · rintro ⟨⟩
      exact .none absent
    · rintro (_ | _)
      · exact absurd rfl absent
      · rfl

/-- What is chosen is the option of the first token. -/
theorem eq_of_choose {α : Type} {options : List α} {token : α → Token} {a : α}
    (read : choose options token ts = .ok (a, rest)) : ts = token a :: rest := by
  cases ts with
  | nil => cases read
  | cons t ts =>
    rw [choose] at read
    split at read
    next b found =>
      cases read
      have same : token a = t := by simpa using List.find?_some found
      rw [same]
    next => cases read

theorem choose_eq_ok {α : Type} {options : List α} {token : α → Token} (injective : ∀ a b, token a = token b → a = b)
    {a : α} (listed : a ∈ options) : choose options token ts = .ok (a, rest) ↔ ts = token a :: rest := by
  refine ⟨eq_of_choose, ?_⟩
  rintro rfl
  have found : options.find? (fun b => decide (token b = token a)) = some a := by
    cases found : options.find? (fun b => decide (token b = token a)) with
    | none =>
      have apart := List.find?_eq_none.mp found a listed
      simp at apart
    | some b =>
      have same : token b = token a := by simpa using List.find?_some found
      rw [injective b a same]
  rw [choose, found]

/-- Words that are allowed are read as they are written. -/
theorem wordsAmong_eq {allowed texts : List String} :
    wordsAmong allowed ts = (texts, rest) ↔ Words allowed ts texts rest := by
  constructor
  · intro read
    fun_induction wordsAmong allowed ts generalizing texts with
    | case1 text ts mem more left again ih =>
      cases read
      exact .more mem (ih again)
    | case2 text ts absent =>
      cases read
      refine .done fun allowedText mem next => absent ?_
      cases next
      exact mem
    | case3 ts noWord =>
      cases read
      refine .done fun text _ next => ?_
      obtain ⟨left, rfl⟩ := List.head?_eq_some_iff.mp next
      exact noWord text left rfl
  · intro written
    induction written with
    | more mem _ ih => rw [wordsAmong, if_pos mem, ih]
    | @done ts absent =>
      unfold wordsAmong
      split
      next text left =>
        rw [if_neg fun mem => absent text mem rfl]
      next => rfl

end

theorem modifiersAre_modifierSet {kind : String} {annotations words : List String} :
    ModifiersAre (modifierSet kind annotations words) kind annotations words := by
  intro word
  unfold modifierSet
  dsimp only
  split
  next deprecated =>
    rw [WordSet.has_insert, WordSet.has_insert, WordSet.has_ofList]
    simp only [deprecated, and_true]
    rw [or_comm, or_assoc, or_left_comm]
  next plain =>
    rw [WordSet.has_insert, WordSet.has_ofList]
    simp only [plain, and_false, or_false]
    exact or_comm

/-- No other set of words has just these. -/
theorem ModifiersAre.eq_modifierSet {modifiers : Modifiers} {kind : String} {annotations words : List String}
    (are : ModifiersAre modifiers kind annotations words) : modifiers = modifierSet kind annotations words := by
  apply WordSet.ext_has
  intro word
  rw [are word, modifiersAre_modifierSet word]

/-! ## Values -/

section

variable {terminators ts written rest : List Token} {text : String}

/-- The tokens of a value, counted from a depth on. -/
theorem valueTokens_eq_some {depth : Nat} :
    valueTokens terminators depth ts = some (written, rest) ↔
      ts = written ++ rest ∧ (∃ t ∈ rest.head?, t ∈ terminators) ∧ written.foldl depthAfter depth = 0 ∧
        ∀ before u after, written = before ++ u :: after → before.foldl depthAfter depth = 0 →
          u ∉ terminators := by
  induction ts generalizing depth written with
  | nil =>
    simp only [valueTokens, reduceCtorEq, false_iff]
    rintro ⟨same, ⟨t, next, -⟩, -⟩
    obtain ⟨rfl, rfl⟩ := List.append_eq_nil_iff.mp same.symm
    cases next
  | cons t ts ih =>
    rw [valueTokens]
    split
    next ends =>
      constructor
      · intro read
        cases read
        refine ⟨rfl, ⟨t, rfl, ends.2⟩, ends.1, ?_⟩
        intro before u after same
        simp at same
      · rintro ⟨same, -, -, inside⟩
        cases written with
        | nil => rw [same]; rfl
        | cons u written =>
          obtain ⟨rfl, -⟩ := List.cons.inj same
          exact absurd ends.2 (inside [] t written rfl ends.1)
    next goesOn =>
      rw [Option.map_eq_some_iff]
      constructor
      · rintro ⟨⟨inner, left⟩, more, same⟩
        cases same
        obtain ⟨rfl, next, closed, inside⟩ := ih.mp more
        refine ⟨rfl, next, closed, ?_⟩
        intro before u after same outside
        cases before with
        | nil =>
          obtain ⟨rfl, -⟩ := List.cons.inj same
          exact fun mem => goesOn ⟨outside, mem⟩
        | cons v before =>
          obtain ⟨rfl, tail⟩ := List.cons.inj same
          exact inside before u after tail outside
      · rintro ⟨same, next, closed, inside⟩
        cases written with
        | nil =>
          obtain ⟨u, first, mem⟩ := next
          rw [List.nil_append] at same
          rw [← same] at first
          cases first
          exact absurd ⟨closed, mem⟩ goesOn
        | cons u written =>
          obtain ⟨rfl, tail⟩ := List.cons.inj same
          refine ⟨(written, rest), ih.mpr ⟨tail, next, closed, ?_⟩, rfl⟩
          intro before u after split outside
          exact inside (t :: before) u after (by rw [split]; rfl) outside

/-- A value is read as it is written. -/
theorem value_eq_ok : value terminators ts = .ok (text, rest) ↔ Expression terminators ts text rest := by
  constructor
  · intro read
    unfold value at read
    split at read
    · cases read
    · cases read
    next written left filled found =>
      cases read
      obtain ⟨rfl, ⟨t, next, mem⟩, closed, inside⟩ := valueTokens_eq_some.mp found
      obtain ⟨rest, rfl⟩ := List.head?_eq_some_iff.mp next
      exact .upTo filled closed mem inside
  · rintro @⟨written, left, t, filled, closed, mem, inside⟩
    have found : valueTokens terminators 0 (written ++ t :: left) = some (written, t :: left) :=
      valueTokens_eq_some.mpr ⟨rfl, ⟨t, rfl, mem⟩, closed, inside⟩
    rw [value, found]
    cases written with
    | nil => exact absurd rfl filled
    | cons u written => rfl

/-- So is a value after the token that announces it. -/
theorem valueAfter_eq_ok {announced : Token} {value? : Option String} :
    valueAfter announced terminators ts = .ok (value?, rest) ↔
      Announced announced (Expression terminators) ts value? rest := by
  rcases head?_cases announced ts with ⟨left, rfl⟩ | absent
  · rw [valueAfter, takeIf_self]
    dsimp only
    constructor
    · intro read
      cases found : value terminators left with
      | error e => rw [found] at read; cases read
      | ok answer =>
        rw [found] at read
        cases read
        exact .given (value_eq_ok.mp found)
    · rintro (written | absent)
      · rw [value_eq_ok.mpr written]
        rfl
      · exact absurd rfl absent
  · rw [valueAfter, takeIf_of_head? absent]
    constructor
    · intro read
      cases read
      exact .none absent
    · rintro (written | _)
      · exact absurd rfl absent
      · rfl

end

end SignatureLint.Grammar
