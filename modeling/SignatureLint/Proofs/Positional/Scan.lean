import Mathlib.Data.Nat.PSub
import SignatureLint.Proofs.Dump.Names
import SignatureLint.Proofs.Positional.Header

/-!
# The filter of format 1, one token at a time

`plainTokens` is told by what it leaves of a whole list. Here the same filter takes one token after the other. A
`Place` is what it knows between two tokens: in how many groups of type arguments it is, or how far it is in an
annotation. Its counters count down by `Nat.ppred`, which answers nothing below zero; `Place.through_follows` says that
this never happens and that what stays is what `plainTokens` leaves.

The places settle where type arguments can be put into a list with no trace: at any point that is not inside an
annotation (`plainTokens_filters`). Inside are the points between the mark of an annotation and its name, between the
name and the arguments that follow it, and in arguments that are not closed yet (`exists_part_of_inside`). A mark at
the end of a list still waits for its name, and so the point behind it is inside.
-/

namespace SignatureLint.Positional

open Grammar

/-- Where the filter stands between two tokens. -/
inductive Place where
  /-- Outside annotations, in that many groups of type arguments. -/
  | plain (depth : Nat)
  /-- Behind the mark of an annotation: its name is next. -/
  | marked
  /-- Behind the name of an annotation: its arguments may be next. -/
  | named
  /-- In the arguments of an annotation, with that many brackets open. -/
  | arguments (depth : Nat)
deriving DecidableEq, Repr

variable {before after : List Token} {place : Place}

namespace Place

/-- Takes a token outside annotations; answers the place behind it, and the token if it stays. -/
def stepPlain (depth : Nat) (t : Token) : Option (Place × List Token) :=
  if t = .punct '<' then some (.plain (depth + 1), [])
  else if t = .punct '>' ∧ depth ≠ 0 then depth.ppred.map (.plain ·, [])
  else if depth ≠ 0 then some (.plain depth, [])
  else if t = .atSign then some (.marked, [])
  else some (.plain 0, [t])

/-- Takes a token; answers the place behind it, and the token if it stays. There is no answer where a counter would go
below zero. -/
def step : Place → Token → Option (Place × List Token)
  | .plain depth, t => stepPlain depth t
  | .marked, _ => some (.named, [])
  | .named, t => if t = .punct '(' then some (.arguments 1, []) else stepPlain 0 t
  | .arguments depth, t =>
    if t = .punct '(' then some (.arguments (depth + 1), [])
    else if t = .punct ')' then depth.ppred.map fun left => (if left = 0 then .plain 0 else .arguments left, [])
    else some (.arguments depth, [])

/-- Takes some tokens; answers the place behind them, and those that stay. -/
def through : Place → List Token → Option (Place × List Token)
  | place, [] => some (place, [])
  | place, t :: ts => do
    let (next, kept) ← place.step t
    let (last, more) ← next.through ts
    return (last, kept ++ more)

/-- In arguments some bracket is open. -/
def Counted : Place → Prop
  | .arguments depth => depth ≠ 0
  | _ => True

/-- What `plainTokens` leaves of the tokens behind a place. -/
def left : Place → List Token → List Token
  | .plain depth, ts => plainTokens depth ts
  | .marked, ts => plainTokens 0 (afterArguments ts.tail)
  | .named, ts => plainTokens 0 (afterArguments ts)
  | .arguments depth, ts => plainTokens 0 (afterBrackets (depth - 1) ts)

theorem left_nil : place.left [] = [] := by
  cases place with
  | plain depth => exact plainTokens_nil depth
  | marked => exact plainTokens_nil 0
  | named => exact plainTokens_nil 0
  | arguments depth => rw [left, afterBrackets, plainTokens_nil]

/-! ## Steps and runs -/

/-- There is an answer, and with it the tokens are taken as `plainTokens` takes them, whatever follows. -/
def Follows (place : Place) (ts : List Token) (answer : Option (Place × List Token)) : Prop :=
  ∃ next kept, answer = some (next, kept) ∧ next.Counted ∧ ∀ rest, place.left (ts ++ rest) = kept ++ next.left rest

theorem stepPlain_follows (depth : Nat) (t : Token) : Follows (.plain depth) [t] (stepPlain depth t) := by
  unfold stepPlain
  split
  next opens => exact ⟨_, _, rfl, trivial, fun rest => by rw [opens, List.cons_append, left, plainTokens]; rfl⟩
  next noOpening =>
    cases depth with
    | zero =>
      rw [if_neg (fun closes => closes.2 rfl), if_neg (fun inside => inside rfl)]
      split
      next marks => exact ⟨_, _, rfl, trivial, fun rest => by rw [marks, List.cons_append, left, plainTokens]; rfl⟩
      next noMark => exact ⟨_, _, rfl, trivial, fun rest => plainTokens_cons ⟨noOpening, noMark⟩⟩
    | succ depth =>
      split
      next closes =>
        exact ⟨_, _, rfl, trivial, fun rest => by rw [closes.1, List.cons_append, left, plainTokens]; rfl⟩
      next noClosing =>
        have other : t ≠ .punct '>' := fun same => noClosing ⟨same, Nat.succ_ne_zero depth⟩
        rw [if_pos (Nat.succ_ne_zero depth)]
        refine ⟨_, _, rfl, trivial, fun rest => ?_⟩
        rw [List.cons_append, left, plainTokens]
        · rfl
        · exact noOpening
        · exact other

/-- **No counter goes below zero in a step**, and the token is taken as `plainTokens` takes it. -/
theorem step_follows (counted : place.Counted) (t : Token) : Follows place [t] (place.step t) := by
  cases place with
  | plain depth => exact stepPlain_follows depth t
  | marked => exact ⟨_, _, rfl, trivial, fun rest => rfl⟩
  | named =>
    rw [step]
    split
    next opens => exact ⟨_, _, rfl, Nat.one_ne_zero, fun rest => by rw [opens]; rfl⟩
    next noOpening =>
      obtain ⟨next, kept, answered, counted, same⟩ := stepPlain_follows 0 t
      refine ⟨next, kept, answered, counted, fun rest => ?_⟩
      rw [← same rest, left, left, List.cons_append, afterArguments]
      exact fun _ start => noOpening (List.cons.inj start).1
  | arguments depth =>
    obtain ⟨depth, rfl⟩ := Nat.exists_eq_succ_of_ne_zero counted
    rw [step]
    split
    next opens =>
      refine ⟨_, _, rfl, Nat.succ_ne_zero _, fun rest => ?_⟩
      rw [opens, List.cons_append, left, Nat.succ_sub_one, afterBrackets]
      rfl
    next noOpening =>
      split
      next closes =>
        rw [Nat.ppred_succ, Option.map_some]
        cases depth with
        | zero => exact ⟨_, _, rfl, trivial, fun rest => by rw [closes]; rfl⟩
        | succ depth =>
          refine ⟨_, _, rfl, Nat.succ_ne_zero depth, fun rest => ?_⟩
          rw [closes, List.cons_append, left, Nat.succ_sub_one, afterBrackets]
          rfl
      next noClosing =>
        refine ⟨_, _, rfl, counted, fun rest => ?_⟩
        rw [List.cons_append, left, Nat.succ_sub_one, afterBrackets]
        · rfl
        · exact noOpening
        · exact fun _ => noClosing
        · exact fun _ _ => noClosing

/-- **No counter goes below zero in a run**, and the tokens are taken as `plainTokens` takes them. -/
theorem through_follows (counted : place.Counted) (ts : List Token) : Follows place ts (place.through ts) := by
  induction ts generalizing place with
  | nil => exact ⟨_, _, rfl, counted, fun rest => rfl⟩
  | cons t ts ih =>
    obtain ⟨next, kept, stepped, counted, first⟩ := step_follows counted t
    obtain ⟨last, more, ran, counted, others⟩ := ih counted
    refine ⟨last, kept ++ more, by simp [through, stepped, ran], counted, fun rest => ?_⟩
    have first : place.left (t :: (ts ++ rest)) = kept ++ next.left (ts ++ rest) := first (ts ++ rest)
    rw [List.cons_append, first, others, List.append_assoc]

/-! ## Points inside annotations -/

/-- The point between the place and the tokens `after` is inside an annotation. -/
def IsInside (after : List Token) : Place → Prop
  | .plain _ => False
  | .marked => True
  | .named => after.head? = some (.punct '(')
  | .arguments _ => True

instance (after : List Token) : (place : Place) → Decidable (place.IsInside after)
  | .plain _ => .isFalse id
  | .marked => .isTrue trivial
  | .named => inferInstanceAs (Decidable (after.head? = some (.punct '(')))
  | .arguments _ => .isTrue trivial

/-- Type arguments before the tokens `after` leave nothing, unless they are put into an annotation. -/
theorem left_insert {inner : List Token} (outside : ¬ place.IsInside after)
    (balanced : Balanced (.punct '<') (.punct '>') inner) :
    place.left (.punct '<' :: (inner ++ .punct '>' :: after)) = place.left after := by
  cases place with
  | plain depth => rw [left, plainTokens, plainTokens_balanced_append balanced, plainTokens, left]
  | marked => exact absurd trivial outside
  | named =>
    rw [left, afterArguments_optionalGroup (.none (by simp)), plainTokens_optionalGroup (.group balanced), left,
      afterArguments_optionalGroup (.none outside)]
  | arguments => exact absurd trivial outside

/-- What stands before a place that is not outside annotations. -/
def Tells (front : List Token) : Place → Prop
  | .plain _ => True
  | .marked => ∃ earlier, front = earlier ++ [.atSign]
  | .named => ∃ earlier name, front = earlier ++ [.atSign, name]
  | .arguments depth => ∃ earlier name inner, front = earlier ++ .atSign :: name :: .punct '(' :: inner ∧
      ∀ more, afterGroup (.punct '(') (.punct ')') 1 (inner ++ more) = afterGroup (.punct '(') (.punct ')') depth more

theorem tells_stepPlain {front kept : List Token} {t : Token} {depth : Nat} {next : Place}
    (stepped : stepPlain depth t = some (next, kept)) : next.Tells (front ++ [t]) := by
  unfold stepPlain at stepped
  split at stepped
  · cases stepped
    trivial
  · split at stepped
    · obtain ⟨_, -, same⟩ := Option.map_eq_some_iff.mp stepped
      cases same
      trivial
    · split at stepped
      · cases stepped
        trivial
      · split at stepped
        next marks =>
          cases stepped
          exact ⟨front, by rw [marks]⟩
        next =>
          cases stepped
          trivial

theorem Tells.step {front kept : List Token} {t : Token} {next : Place} (tells : place.Tells front)
    (counted : place.Counted) (stepped : place.step t = some (next, kept)) : next.Tells (front ++ [t]) := by
  cases place with
  | plain depth => exact tells_stepPlain stepped
  | marked =>
    obtain ⟨earlier, rfl⟩ := tells
    cases stepped
    exact ⟨earlier, t, by simp⟩
  | named =>
    rw [Place.step] at stepped
    split at stepped
    next opens =>
      obtain ⟨earlier, name, rfl⟩ := tells
      cases stepped
      exact ⟨earlier, name, [], by simp [opens], fun more => rfl⟩
    next => exact tells_stepPlain stepped
  | arguments depth =>
    obtain ⟨earlier, name, inner, rfl, open_inner⟩ := tells
    obtain ⟨depth, rfl⟩ := Nat.exists_eq_succ_of_ne_zero counted
    -- the brackets of one more token are counted as `afterGroup` counts them
    have reads {deeper : Nat} (counts : ∀ more, afterGroup (.punct '(') (.punct ')') (depth + 1) (t :: more) =
        afterGroup (.punct '(') (.punct ')') deeper more) :
        (Place.arguments deeper).Tells (earlier ++ .atSign :: name :: .punct '(' :: inner ++ [t]) :=
      ⟨earlier, name, inner ++ [t], by simp, fun more => by
        rw [List.append_assoc, open_inner, List.singleton_append, counts]⟩
    rw [Place.step] at stepped
    split at stepped
    next opens =>
      cases stepped
      exact reads fun more => by rw [afterGroup, if_pos opens]
    next noOpening =>
      split at stepped
      next closes =>
        cases stepped
        split
        next => trivial
        next => exact reads fun more => by rw [afterGroup, if_neg noOpening, if_pos closes]
      next noClosing =>
        cases stepped
        exact reads fun more => by rw [afterGroup, if_neg noOpening, if_neg noClosing]

theorem Tells.through {front ts kept : List Token} {last : Place} (tells : place.Tells front)
    (counted : place.Counted) (ran : place.through ts = some (last, kept)) :
    last.Tells (front ++ ts) ∧ last.Counted := by
  induction ts generalizing place front kept with
  | nil =>
    cases ran
    rw [List.append_nil]
    exact ⟨tells, counted⟩
  | cons t ts ih =>
    obtain ⟨next, kept, stepped, counted', -⟩ := step_follows counted t
    obtain ⟨last, more, ran', -, -⟩ := through_follows counted' ts
    simp only [Place.through, stepped, ran', Option.bind_eq_bind, Option.bind_some, Option.pure_def] at ran
    cases ran
    have told := ih (tells.step counted stepped) counted' ran'
    rwa [List.append_assoc] at told

end Place

/-- The point between the two lists is inside an annotation of the list that they make together. -/
def AnnotationAround (before after : List Token) : Prop :=
  ∃ answer ∈ (Place.plain 0).through before, answer.1.IsInside after

instance : Decidable (AnnotationAround before after) := inferInstanceAs (Decidable (∃ _ ∈ _, _))

/-- The first part of an annotation that goes on with the tokens `after`: its mark, its mark and name before its
arguments, or all up to a point in its arguments. -/
inductive AnnotationPart (after : List Token) : List Token → Prop where
  | mark : AnnotationPart after [.atSign]
  | name {name : Token} : after.head? = some (.punct '(') → AnnotationPart after [.atSign, name]
  | arguments {name : Token} {inner : List Token} :
    afterGroup (.punct '(') (.punct ')') 1 inner = none →
      AnnotationPart after (.atSign :: name :: .punct '(' :: inner)

/-- Before a point inside an annotation stands the first part of the annotation. -/
theorem exists_part_of_inside (inside : AnnotationAround before after) :
    ∃ front part, before = front ++ part ∧ AnnotationPart after part := by
  obtain ⟨⟨place, kept⟩, ran, inside⟩ := inside
  obtain ⟨told, counted⟩ := @Place.Tells.through (.plain 0) [] before kept place trivial trivial ran
  rw [List.nil_append] at told
  cases place with
  | plain => exact inside.elim
  | marked =>
    obtain ⟨front, rfl⟩ := told
    exact ⟨front, _, rfl, .mark⟩
  | named =>
    obtain ⟨front, name, rfl⟩ := told
    exact ⟨front, _, rfl, .name inside⟩
  | arguments depth =>
    obtain ⟨front, name, inner, rfl, open_inner⟩ := told
    refine ⟨front, _, rfl, .arguments ?_⟩
    obtain ⟨depth, rfl⟩ := Nat.exists_eq_succ_of_ne_zero counted
    rw [← List.append_nil inner, open_inner, afterGroup]

/-! ## The filter -/

/-- No mark of type arguments or of an annotation is left. -/
theorem isPlain_of_mem_plainTokens (depth : Nat) (ts : List Token) : ∀ t ∈ plainTokens depth ts, IsPlain t := by
  fun_induction plainTokens depth ts with
  | case1 => exact fun _ absent => absurd absent List.not_mem_nil
  | case2 _ _ ih => exact ih
  | case3 _ _ ih => exact ih
  | case4 _ _ _ _ _ ih => exact ih
  | case5 _ ih => exact ih
  | case6 t rest noOpening noMark ih => exact List.forall_mem_cons.mpr ⟨⟨noOpening, noMark⟩, ih⟩

/-- **What the filter does.** It leaves some of the tokens of a line, in their order, and among them no mark of type
arguments or of an annotation; a list without such marks it leaves as it is. Taken one token at a time it never counts
below zero. And type arguments can be put in at any point that is not inside an annotation, whatever they hold; before a
point that is inside one stands its mark, with its name or the end of its arguments still to come. -/
theorem plainTokens_filters :
    (∀ (line : Line) (tokens : List Token), tokenize line.text = .ok tokens →
      ∃ kept, line.plainTokens = .ok kept ∧ kept.Sublist tokens ∧ .atSign ∉ kept ∧ .punct '<' ∉ kept) ∧
    (∀ tokens : List Token, .atSign ∉ tokens → .punct '<' ∉ tokens → plainTokens 0 tokens = tokens) ∧
    (∀ tokens : List Token, ∃ place, (Place.plain 0).through tokens = some (place, plainTokens 0 tokens)) ∧
    (∀ before inner after : List Token, ¬ AnnotationAround before after →
      Balanced (.punct '<') (.punct '>') inner →
      plainTokens 0 (before ++ .punct '<' :: (inner ++ .punct '>' :: after)) = plainTokens 0 (before ++ after)) ∧
    ∀ before after : List Token, AnnotationAround before after →
      ∃ front part, before = front ++ part ∧ AnnotationPart after part := by
  refine ⟨fun line tokens scanned => ?_, fun tokens noMark noOpening => ?_, fun tokens => ?_,
    fun before inner after outside balanced => ?_, fun _ _ => exists_part_of_inside⟩
  · have plain := isPlain_of_mem_plainTokens 0 tokens
    exact ⟨_, Line.plainTokens_eq scanned, plainTokens_sublist 0 tokens, fun mem => (plain _ mem).2 rfl,
      fun mem => (plain _ mem).1 rfl⟩
  · have plain : ∀ t ∈ tokens, IsPlain t := fun t mem =>
      ⟨fun same => noOpening (same ▸ mem), fun same => noMark (same ▸ mem)⟩
    have kept := @plainTokens_append [] tokens plain
    rwa [plainTokens_nil, List.append_nil] at kept
  · obtain ⟨last, kept, ran, -, same⟩ := @Place.through_follows (.plain 0) trivial tokens
    have same := same []
    rw [List.append_nil, Place.left_nil, List.append_nil] at same
    exact ⟨last, by rw [ran, ← same]; rfl⟩
  · obtain ⟨place, kept, ran, -, same⟩ := @Place.through_follows (.plain 0) trivial before
    have outside : ¬ place.IsInside after := fun inside => outside ⟨_, ran, inside⟩
    calc plainTokens 0 (before ++ .punct '<' :: (inner ++ .punct '>' :: after))
      _ = kept ++ place.left (.punct '<' :: (inner ++ .punct '>' :: after)) := same _
      _ = kept ++ place.left after := by rw [Place.left_insert outside balanced]
      _ = plainTokens 0 (before ++ after) := (same after).symm

/-- The header of a class with a mark in the arguments of an annotation and an annotation in type arguments. -/
def nestedLine : Line where
  number := 2
  text := "  @A(b < \")\") public class C<D extends @E(f) G> \x7b".toList
  blame := none

def nestedTokens : List Token := [
  .atSign, .word "A", .punct '(', .word "b", .punct '<', .literal "\")\"", .punct ')', .word "public", .word "class",
  .word "C", .punct '<', .word "D", .word "extends", .atSign, .word "E", .punct '(', .word "f", .punct ')', .word "G",
  .punct '>', .punct '{']

/-- What the type arguments hold that are put in: brackets that are not paired, a mark, and type arguments. -/
def putInside : List Token := [.punct ')', .atSign, .punct '<', .punct '(', .punct '>', .punct '{']

/-- The line is filtered, and type arguments are put into it behind the mark of the annotation that is in type
arguments itself. The arguments of the other annotation are no place for them. -/
theorem plainTokens_filters_nested :
    tokenize nestedLine.text = .ok nestedTokens ∧
      (∃ kept, nestedLine.plainTokens = .ok kept ∧ kept.Sublist nestedTokens ∧ .atSign ∉ kept ∧ .punct '<' ∉ kept) ∧
      plainTokens 0 [.word "class", .punct '>', .word "C", .punct '('] =
        [.word "class", .punct '>', .word "C", .punct '('] ∧
      ¬ AnnotationAround (nestedTokens.take 14) (nestedTokens.drop 14) ∧
      Balanced (.punct '<') (.punct '>') putInside ∧
      plainTokens 0 (nestedTokens.take 14 ++ .punct '<' :: (putInside ++ .punct '>' :: nestedTokens.drop 14)) =
        plainTokens 0 (nestedTokens.take 14 ++ nestedTokens.drop 14) ∧
      AnnotationAround (nestedTokens.take 4) (nestedTokens.drop 4) ∧
      ∃ front part, nestedTokens.take 4 = front ++ part ∧ AnnotationPart (nestedTokens.drop 4) part := by
  have scanned : tokenize nestedLine.text = .ok nestedTokens := eq_ok_of_toOption (by decide +kernel)
  have outside : ¬ AnnotationAround (nestedTokens.take 14) (nestedTokens.drop 14) := by decide +kernel
  have inside : AnnotationAround (nestedTokens.take 4) (nestedTokens.drop 4) := by decide +kernel
  have group : Balanced (.punct '<') (.punct '>') [.punct '<', .punct '(', .punct '>', .punct '{'] :=
    @Balanced.pair _ _ [.punct '('] _ (.other (by decide) (by decide) .nil) (.other (by decide) (by decide) .nil)
  have balanced : Balanced (.punct '<') (.punct '>') putInside :=
    .other (by decide) (by decide) (.other (by decide) (by decide) group)
  obtain ⟨lines, unmarked, -, inserted, written⟩ := plainTokens_filters
  exact ⟨scanned, lines nestedLine nestedTokens scanned, unmarked _ (by decide) (by decide), outside, balanced,
    inserted _ _ _ outside balanced, inside, written _ _ inside⟩

end SignatureLint.Positional
