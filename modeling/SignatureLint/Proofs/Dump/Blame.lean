import Mathlib.Data.List.TakeWhile
import SignatureLint.Dump.Line

/-!
# The blame before a line

A blame is told by what stands before the text of the line, and not by the text: before any other text it is
split off as well, and that text is left (`Blame.exists_prefix`). `Line.blamePrefix` is what stands before the
text; a line that is changed behind it keeps its blame (`Line.ofText_blamePrefix_append`).
-/

namespace SignatureLint

namespace Blame

/-- What stands up to a closing bracket and the space behind it. -/
theorem exists_afterBracket {cs left : List Char} (found : afterBracket cs = some left) :
    ∃ c before, cs = c :: before ++ left ∧ ∀ other, afterBracket (c :: before ++ other) = some other := by
  fun_induction afterBracket cs with
  | case1 rest =>
    cases found
    exact ⟨')', [' '], rfl, fun other => rfl⟩
  | case2 c rest notClosed ih =>
    obtain ⟨d, before, rfl, again⟩ := ih found
    refine ⟨c, d :: before, rfl, fun other => ?_⟩
    have skip : afterBracket (c :: (d :: before ++ other)) = afterBracket (d :: before ++ other) := by
      rw [afterBracket]
      intro after closing space
      exact notClosed (before ++ left) closing (congrArg (· :: _) (List.cons.inj space).1)
    exact skip.trans (again other)
  | case3 => cases found

/-- The parts of a text with a blame. -/
theorem exists_parts {text rest : List Char} {blame : Blame} (found : split? text = some (blame, rest)) :
    ∃ commit author first after, text = commit ++ ' ' :: '(' :: '<' :: (author ++ '>' :: first :: after) ∧
      (∀ c ∈ commit, (c != ' ') = true) ∧ (∀ c ∈ author, (c != '>') = true) ∧ afterBracket after = some rest ∧
      rest ≠ [] ∧ (isCommit commit && author != [] && first.toNat < 0x80) = true ∧
      blame = ⟨String.ofList commit, String.ofList author⟩ := by
  unfold split? at found
  dsimp only at found
  split at found
  next authored commitEnd =>
    split at found
    next first after authorEnd =>
      split at found
      next c left bracket =>
        split at found
        next given =>
          cases found
          refine ⟨_, _, first, after, ?_, ?_, ?_, bracket, List.cons_ne_nil _ _, given, rfl⟩
          · rw [← authorEnd, List.takeWhile_append_dropWhile, ← commitEnd, List.takeWhile_append_dropWhile]
          · intro c mem
            have kept := List.mem_takeWhile_imp mem
            exact kept
          · intro c mem
            have kept := List.mem_takeWhile_imp mem
            exact kept
        next => cases found
      next => cases found
    next => cases found
  next => cases found

theorem takeWhile_append_stop {keep : Char → Bool} {run : List Char} {stop : Char}
    (kept : ∀ c ∈ run, keep c = true) (stops : keep stop = false) (rest : List Char) :
    (run ++ stop :: rest).takeWhile keep = run ∧ (run ++ stop :: rest).dropWhile keep = stop :: rest := by
  have noStop : ¬ keep stop = true := Bool.eq_false_iff.mp stops
  rw [List.takeWhile_append_of_pos kept, List.dropWhile_append_of_pos kept, List.takeWhile_cons_of_neg noStop,
    List.dropWhile_cons_of_neg noStop, List.append_nil]
  exact ⟨rfl, rfl⟩

/-- **A blame is told by what stands before the text**: it is split off before any other text. -/
theorem exists_prefix {text rest : List Char} {blame : Blame} (found : split? text = some (blame, rest)) :
    ∃ before, text = before ++ rest ∧ ∀ other, other ≠ [] → split? (before ++ other) = some (blame, other) := by
  obtain ⟨commit, author, first, after, rfl, isCommit, isAuthor, bracket, -, given, rfl⟩ := exists_parts found
  obtain ⟨c, before, rfl, again⟩ := exists_afterBracket bracket
  refine ⟨commit ++ ' ' :: '(' :: '<' :: (author ++ '>' :: first :: (c :: before)), by simp, ?_⟩
  intro other filled
  obtain ⟨d, more, rfl⟩ := List.exists_cons_of_ne_nil filled
  have shape : commit ++ ' ' :: '(' :: '<' :: (author ++ '>' :: first :: (c :: before)) ++ d :: more =
      commit ++ ' ' :: '(' :: '<' :: (author ++ '>' :: first :: (c :: before ++ d :: more)) := by simp
  obtain ⟨takenCommit, leftCommit⟩ := takeWhile_append_stop isCommit (show (' ' != ' ') = false from rfl)
    ('(' :: '<' :: (author ++ '>' :: first :: (c :: before ++ d :: more)))
  obtain ⟨takenAuthor, leftAuthor⟩ := takeWhile_append_stop isAuthor (show ('>' != '>') = false from rfl)
    (first :: (c :: before ++ d :: more))
  rw [shape, split?]
  simp only [takenCommit, leftCommit, takenAuthor, leftAuthor, again, given, if_true]

end Blame

namespace Line

/-- What stands before the text of a line: its blame, if it has one. -/
def blamePrefix (text : String) : List Char :=
  let trimmed := Text.trimEnd text.toList
  match Blame.split? trimmed with
  | some (_, rest) => trimmed.take (trimmed.length - rest.length)
  | none => []

/-- A line that is changed behind its blame has the blame and the new text. If there is no blame, the new text
must not be taken for one. -/
theorem ofText_blamePrefix_append {number : Nat} {text : String} {other : List Char} (filled : other ≠ [])
    (noBlame : Blame.split? other = none)
    (trimmed : Text.trimEnd (blamePrefix text ++ other) = blamePrefix text ++ other) :
    ofText number (String.ofList (blamePrefix text ++ other)) =
      { number, text := other, blame := (ofText number text).blame } := by
  unfold ofText
  rw [String.toList_ofList, trimmed]
  dsimp only
  cases found : Blame.split? (Text.trimEnd text.toList) with
  | none =>
    have unblamed : blamePrefix text = [] := by simp only [blamePrefix, found]
    rw [unblamed, List.nil_append, noBlame]
  | some parts =>
    obtain ⟨blame, rest⟩ := parts
    obtain ⟨before, same, again⟩ := Blame.exists_prefix found
    rw [same] at found
    have kept : blamePrefix text = before := by
      simp only [blamePrefix, same, found, List.length_append, Nat.add_sub_cancel, List.take_left]
    rw [kept, same, again other filled]

end Line

end SignatureLint
