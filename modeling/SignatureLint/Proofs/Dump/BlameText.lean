import SignatureLint.Proofs.Dump.BlankLines
import SignatureLint.Proofs.Dump.Respaced

/-!
# How a blame is written

A blame stands before the text of a line as `commit (<author>date) `. `BlameText.WellFormed` says what the three
parts may be, so that the blame ends where it should. A line before which a blame is written is the line it was,
with that blame (`Line.ofText_written`); before a blank line the blanks that end the blame are cut off, no blame
is left, and the line says nothing (`Reader.feed_written_blank`).
-/

namespace SignatureLint

open Text

/-! ## The written form -/

/-- What a blame is written with: an abbreviated commit, an author, and what stands behind the author. -/
structure BlameText where
  commit : String
  author : String
  date : String
deriving DecidableEq, Repr

namespace BlameText

/-- What is kept of it. -/
def blame (b : BlameText) : Blame := ⟨b.commit, b.author⟩

/-- What stands before the text of the line. -/
def toString (b : BlameText) : String := b.commit ++ " (<" ++ b.author ++ ">" ++ b.date ++ ") "

/-- A digit or one of the letters `a` to `f`. -/
def isHexDigit (c : Char) : Bool := c.isDigit || ('a' ≤ c && c ≤ 'f')

/-- The commit is seven hexadecimal digits or more, the author is closed by the bracket behind it, and the date,
which an ASCII character starts, by the bracket behind that. -/
structure WellFormed (b : BlameText) : Prop where
  commit : 7 ≤ b.commit.toList.length ∧ ∀ c ∈ b.commit.toList, isHexDigit c = true
  author : b.author.toList ≠ [] ∧ '>' ∉ b.author.toList
  dateStart : ∃ first rest, b.date.toList = first :: rest ∧ first.toNat < 0x80
  dateEnd : ¬ [')', ' '] <:+: b.date.toList

end BlameText

/-! ## Brackets and blanks -/

namespace Text

/-- Blanks are cut off the second text, and off the first if nothing is left of the second. -/
theorem trimEnd_append (front back : List Char) :
    trimEnd (front ++ back) = if trimEnd back = [] then trimEnd front else front ++ trimEnd back :=
  trimEndBy_append isBlank front back

end Text

namespace Blame

variable {date : List Char}

/-- No closing bracket before the one behind the date has a space behind it. -/
theorem afterBracket_append (closed : ¬ [')', ' '] <:+: date) (rest : List Char) :
    afterBracket (date ++ ')' :: rest) = afterBracket (')' :: rest) := by
  induction date with
  | nil => rfl
  | cons c date ih =>
    have skip : afterBracket (c :: (date ++ ')' :: rest)) = afterBracket (date ++ ')' :: rest) := by
      rw [afterBracket]
      rintro left rfl space
      cases date with
      | nil => cases space
      | cons d date =>
        obtain ⟨rfl, -⟩ := List.cons.inj space
        exact closed ⟨[], date, rfl⟩
    rw [List.cons_append, skip, ih fun inside => closed (inside.trans (List.suffix_cons c date).isInfix)]

end Blame

/-! ## Splitting -/

namespace BlameText

variable {b : BlameText}

theorem isLower_or_isDigit {c : Char} (hex : isHexDigit c = true) : (c.isLower || c.isDigit) = true := by
  rw [isHexDigit, Bool.or_eq_true, Bool.and_eq_true, decide_eq_true_iff, decide_eq_true_iff] at hex
  rw [Bool.or_eq_true]
  rcases hex with digit | ⟨low, high⟩
  · exact .inr digit
  · refine .inl ?_
    have lower : c.isLower = (decide ('a'.val ≤ c.val) && decide (c.val ≤ 'z'.val)) := rfl
    rw [lower, Bool.and_eq_true, decide_eq_true_iff, decide_eq_true_iff]
    exact ⟨low, UInt32.le_trans high (by decide)⟩

theorem ne_of_isHexDigit {c d : Char} (hex : isHexDigit c = true) (other : isHexDigit d = false) : c ≠ d := by
  rintro rfl
  rw [hex] at other
  cases other

/-- What stands before a line's text, part by part. -/
theorem toList_toString_append (b : BlameText) (rest : List Char) :
    b.toString.toList ++ rest =
      b.commit.toList ++ ' ' :: '(' :: '<' :: (b.author.toList ++ '>' :: (b.date.toList ++ ')' :: ' ' :: rest)) := by
  simp [toString]

variable (wellFormed : b.WellFormed)

include wellFormed

theorem WellFormed.isCommit : Blame.isCommit b.commit.toList = true := by
  obtain ⟨long, digits⟩ := wellFormed.commit
  rw [Blame.isCommit, decide_eq_true long, Bool.true_and, List.all_eq_true]
  exact fun c mem => isLower_or_isDigit (digits c mem)

/-- The parts of the text, as they are split off one by one. -/
theorem WellFormed.split?_parts (rest : List Char) :
    let text := b.commit.toList ++ ' ' :: '(' :: '<' :: (b.author.toList ++ '>' :: (b.date.toList ++ rest))
    ∃ first date, b.date.toList = first :: date ∧ ¬ [')', ' '] <:+: date ∧
      Blame.split? text =
        match Blame.afterBracket (date ++ rest) with
        | some (c :: left) => some (b.blame, c :: left)
        | _ => none := by
  obtain ⟨first, date, starts, ascii⟩ := wellFormed.dateStart
  have noSpace : ∀ c ∈ b.commit.toList, (c != ' ') = true := fun c mem =>
    bne_iff_ne.mpr (ne_of_isHexDigit (wellFormed.commit.2 c mem) (by decide))
  have noClose : ∀ c ∈ b.author.toList, (c != '>') = true := fun c mem =>
    bne_iff_ne.mpr fun same => wellFormed.author.2 (same ▸ mem)
  have closed : ¬ [')', ' '] <:+: date := fun inside =>
    wellFormed.dateEnd (starts ▸ inside.trans (List.suffix_cons first date).isInfix)
  refine ⟨first, date, starts, closed, ?_⟩
  obtain ⟨takenCommit, leftCommit⟩ := Blame.takeWhile_append_stop noSpace (show (' ' != ' ') = false from rfl)
    ('(' :: '<' :: (b.author.toList ++ '>' :: (b.date.toList ++ rest)))
  obtain ⟨takenAuthor, leftAuthor⟩ := Blame.takeWhile_append_stop noClose (show ('>' != '>') = false from rfl)
    (b.date.toList ++ rest)
  have given : (Blame.isCommit b.commit.toList && b.author.toList != [] && decide (first.toNat < 0x80)) = true := by
    rw [wellFormed.isCommit, bne_iff_ne.mpr wellFormed.author.1, decide_eq_true ascii]
    rfl
  rw [Blame.split?]
  simp only [takenCommit, leftCommit, takenAuthor, leftAuthor]
  rw [starts, List.cons_append]
  simp only [given, if_true, String.ofList_toList]
  rfl

/-- Before a text that is not empty the blame is split off. -/
theorem WellFormed.split?_append {rest : List Char} (filled : rest ≠ []) :
    Blame.split? (b.toString.toList ++ rest) = some (b.blame, rest) := by
  obtain ⟨first, date, -, closed, split⟩ := wellFormed.split?_parts (')' :: ' ' :: rest)
  obtain ⟨c, left, rfl⟩ := List.exists_cons_of_ne_nil filled
  rw [toList_toString_append, split, Blame.afterBracket_append closed]
  rfl

/-- Without the space that ends it, it is no blame. -/
theorem WellFormed.trimmed_eq :
    ∃ c rest, isHexDigit c = true ∧ trimEnd b.toString.toList = c :: rest ∧ Blame.split? (c :: rest) = none := by
  obtain ⟨first, date, -, closed, split⟩ := wellFormed.split?_parts [')']
  obtain ⟨c, commit, commit_eq⟩ := List.exists_cons_of_length_pos (l := b.commit.toList)
    (Nat.lt_of_lt_of_le (by decide) wellFormed.commit.1)
  have hex : isHexDigit c = true := wellFormed.commit.2 c (commit_eq ▸ List.mem_cons_self)
  have spaced : b.toString.toList =
      (b.commit.toList ++ ' ' :: '(' :: '<' :: (b.author.toList ++ '>' :: (b.date.toList ++ [')']))) ++ [' '] := by
    have parts := toList_toString_append b []
    rw [List.append_nil] at parts
    rw [parts]
    simp
  rw [Blame.afterBracket_append closed] at split
  refine ⟨c, commit ++ ' ' :: '(' :: '<' :: (b.author.toList ++ '>' :: (b.date.toList ++ [')'])), hex, ?_, ?_⟩
  · have last : (c :: (commit ++ ' ' :: '(' :: '<' :: (b.author.toList ++ '>' :: (b.date.toList ++ [')'])))).getLast? =
        some ')' := by simp [List.getLast?_cons, List.getLast?_append]
    rw [spaced, trimEnd_append, if_pos (by decide), commit_eq]
    exact trimEnd_eq_self last (by decide)
  · rw [commit_eq] at split
    exact split

end BlameText

/-! ## Lines -/

namespace Line

/-- A line that starts with a digit says nothing. -/
theorem startsWith_of_isHexDigit {c d : Char} (hex : BlameText.isHexDigit c = true)
    (other : BlameText.isHexDigit d = false) {start : String} {more : List Char} (starts : start.toList = d :: more)
    (n : Nat) (rest : List Char) (blame : Option Blame) :
    Line.startsWith { number := n, text := c :: rest, blame } start = false := by
  have apart : (d == c) = false := beq_eq_false_iff_ne.mpr (BlameText.ne_of_isHexDigit hex other).symm
  rw [Line.startsWith, starts, List.isPrefixOf, apart, Bool.false_and]

theorem shape_of_isHexDigit {c : Char} (hex : BlameText.isHexDigit c = true) (n : Nat) (rest : List Char)
    (blame : Option Blame) : Line.shape { number := n, text := c :: rest, blame } = .other := by
  have indented : ∀ start ∈ "  " :: "  \x7d" :: (methodStarts ++ fieldStarts),
      Line.startsWith { number := n, text := c :: rest, blame } start = false := by
    have spaces : ∀ start ∈ "  " :: "  \x7d" :: (methodStarts ++ fieldStarts),
        start.toList = ' ' :: start.toList.tail := by decide
    exact fun start mem => startsWith_of_isHexDigit hex (by decide) (spaces start mem) n rest blame
  have package : Line.startsWith { number := n, text := c :: rest, blame } "package" = false :=
    startsWith_of_isHexDigit hex (d := 'p') (by decide) rfl n rest blame
  have noMethod := List.any_eq_false.mpr fun start mem =>
    Bool.eq_false_iff.mp (indented start (by simp only [List.mem_cons, List.mem_append]; exact .inr (.inr (.inl mem))))
  have noField := List.any_eq_false.mpr fun start mem =>
    Bool.eq_false_iff.mp (indented start (by simp only [List.mem_cons, List.mem_append]; exact .inr (.inr (.inr mem))))
  simp only [shape, package, indented "  " (by decide), indented "  \x7d" (by decide), noMethod, noField,
    Bool.false_and, Bool.false_eq_true, if_false]

theorem version?_of_isHexDigit {c : Char} (hex : BlameText.isHexDigit c = true) (n : Nat) (rest : List Char)
    (blame : Option Blame) : Line.version? { number := n, text := c :: rest, blame } = none := by
  rw [version?, startsWith_of_isHexDigit hex (d := '/') (by decide) rfl, Bool.and_false]
  rfl

variable {b : BlameText} (wellFormed : b.WellFormed) {text : String}

include wellFormed

/-- **Before a line that has none, a blame is written**: the line is what it was, and has the blame. -/
theorem ofText_written (n : Nat) (filled : trimmed text ≠ []) (noBlame : Blame.split? (trimmed text) = none) :
    ofText n (b.toString ++ text) = { ofText n text with blame := some b.blame } := by
  have cut : trimEnd (b.toString ++ text).toList = b.toString.toList ++ trimmed text := by
    rw [String.toList_append, trimEnd_append, ← trimmed, if_neg filled]
  have plain : ofText n text = { number := n, text := trimmed text, blame := none } := by
    unfold ofText
    dsimp only
    rw [trimmed] at noBlame
    rw [noBlame, trimmed]
  rw [plain, ofText, cut, wellFormed.split?_append filled]

end Line

namespace Reader

variable {b : BlameText} (wellFormed : b.WellFormed) {text : String}

include wellFormed

/-- Before a blank line a blame is text that says nothing. -/
theorem feed_written_blank (r : Reader) (blank : trimmed text = []) :
    r.feed (b.toString ++ text) = ({ r with line := r.line + 1 }, none) := by
  obtain ⟨c, rest, hex, cut, noBlame⟩ := wellFormed.trimmed_eq
  have cutAll : trimEnd (b.toString ++ text).toList = c :: rest := by
    rw [String.toList_append, trimEnd_append, ← trimmed, if_pos blank, cut]
  have line : Line.ofText (r.line + 1) (b.toString ++ text) =
      { number := r.line + 1, text := c :: rest, blame := none } := by
    unfold Line.ofText
    dsimp only
    rw [cutAll, noBlame]
  have version := Line.version?_of_isHexDigit hex (r.line + 1) rest none
  have shape := Line.shape_of_isHexDigit hex (r.line + 1) rest none
  rw [← line] at version shape
  rw [feed_of_version?_eq_none version, feedLine, shape]

end Reader

end SignatureLint
