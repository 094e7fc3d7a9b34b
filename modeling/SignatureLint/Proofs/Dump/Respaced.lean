import SignatureLint.Proofs.Dump.Blame
import SignatureLint.Proofs.Dump.Shape
import SignatureLint.Proofs.Grammar.Rest
import SignatureLint.Proofs.Token.Spacing

/-!
# Lines with single spaces

`Line.respaced` writes a line anew: its blame, the indentation of its shape, and its tokens with one space
between two of them. A line that declares something in format 2 (`Line.Declares`) keeps its shape, its tokens
and its blame (`Line.Declares.respaced`): the word that a package or a member starts with and the brace that a
header ends in are tokens, and no two tokens of a package line look like a blame.
-/

namespace SignatureLint

namespace Blame

/-- No blame is split off where another character than an opening bracket follows the first space. -/
theorem split?_eq_none {run rest : List Char} (noSpace : ∀ c ∈ run, (c != ' ') = true)
    (noBracket : rest.head? ≠ some '(') : split? (run ++ ' ' :: rest) = none := by
  obtain ⟨-, left⟩ := takeWhile_append_stop noSpace (show (' ' != ' ') = false from rfl) rest
  cases found : split? (run ++ ' ' :: rest) with
  | none => rfl
  | some parts =>
    obtain ⟨commit, author, first, after, same, isCommit, -⟩ := exists_parts found
    obtain ⟨-, left'⟩ := takeWhile_append_stop isCommit (show (' ' != ' ') = false from rfl)
      ('(' :: '<' :: (author ++ '>' :: first :: after))
    rw [same, left'] at left
    rw [← (List.cons.inj left).2] at noBracket
    exact absurd rfl noBracket

theorem split?_eq_none_of_indented (rest : List Char) : split? (' ' :: ' ' :: rest) = none :=
  @split?_eq_none [] (' ' :: rest) (fun c listed => by cases listed)
    (fun same => absurd (Option.some.inj same) (by decide))

end Blame

namespace Text

theorem trimEnd_eq_self {text : List Char} {c : Char} (last : text.getLast? = some c) (noBlank : isBlank c = false) :
    trimEnd text = text := by
  obtain ⟨front, rfl⟩ := List.getLast?_eq_some_iff.mp last
  rw [trimEnd, trimEndBy, List.reverse_concat, List.dropWhile_cons_of_neg (Bool.eq_false_iff.mp noBlank),
    List.reverse_cons, List.reverse_reverse]

end Text

namespace Line

/-- How far in lines of a shape stand. -/
def Shape.indentation : Shape → List Char
  | .header => [' ', ' ']
  | .method => [' ', ' ', ' ', ' ']
  | .field => [' ', ' ', ' ', ' ']
  | _ => []

/-- The text with its blame, the indentation of its shape, and single spaces between its tokens. A text without
tokens stays as it is. -/
def respaced (text : String) : String :=
  let line := ofText 0 text
  match line.tokens with
  | .ok tokens => String.ofList (blamePrefix text ++ (line.shape.indentation ++ (spaced tokens).toList))
  | .error _ => text

/-- The tokens are those of a line of this shape that declares something: a package's start with its word and
what is no bracket, a class's end in a brace, and a member's start with the word of its kind. -/
inductive Declares : Shape → List Token → Prop where
  | package {t : Token} {ts : List Token} :
    t.text.toList.head? ≠ some '(' → Declares .package (.word "package" :: t :: ts)
  | header {ts : List Token} : [.punct '{'] <:+ ts → Declares .header ts
  | method (kind : MethodKind) {ts : List Token} : Declares .method (kind.token :: ts)
  | field (kind : FieldKind) {ts : List Token} : Declares .field (kind.token :: ts)

variable {line : Line} {shape : Shape} {ts : List Token}

theorem startsWith_append {line : Line} {start : String} {more : List Char} (text : line.text = start.toList ++ more) :
    line.startsWith start = true := by
  rw [startsWith_iff, text]
  exact List.prefix_append _ _

/-- The first of some tokens is spelled without a blank before it. -/
theorem exists_head_spaced (solid : ∀ t ∈ ts, Token.Solid t.text) (filled : ts ≠ []) :
    ∃ c, Text.isBlank c = false ∧ (spaced ts).toList.head? = some c := by
  obtain ⟨t, more, rfl⟩ := List.exists_cons_of_ne_nil filled
  obtain ⟨c, noBlank, first⟩ := (solid t List.mem_cons_self).first
  obtain ⟨after, same⟩ := Token.exists_spaced_cons t more
  exact ⟨c, noBlank, by rw [same, List.head?_append, first]; rfl⟩

/-- The last is spelled without a blank behind it. -/
theorem exists_getLast_spaced (solid : ∀ t ∈ ts, Token.Solid t.text) (filled : ts ≠ []) :
    ∃ c, Text.isBlank c = false ∧ (spaced ts).toList.getLast? = some c := by
  obtain ⟨c, noBlank, last⟩ := (solid _ (List.getLast_mem filled)).last
  obtain ⟨before, same⟩ := Token.exists_spaced_concat ts.dropLast (ts.getLast filled)
  rw [List.dropLast_concat_getLast] at same
  exact ⟨c, noBlank, by rw [same, List.getLast?_append, last]; rfl⟩

theorem Declares.ne_nil (declares : Declares shape ts) : ts ≠ [] := by
  cases declares with
  | package => exact List.cons_ne_nil _ _
  | header ends =>
    rintro rfl
    exact absurd (List.suffix_nil.mp ends) (List.cons_ne_nil _ _)
  | method => exact List.cons_ne_nil _ _
  | field => exact List.cons_ne_nil _ _

/-- Tokens that end in a brace make a header two spaces in. -/
theorem headerShaped_of_spaced (solid : ∀ t ∈ ts, Token.Solid t.text) (ends : [.punct '{'] <:+ ts)
    (text : line.text = [' ', ' '] ++ (spaced ts).toList) : line.HeaderShaped := by
  obtain ⟨front, rfl⟩ := ends
  have filled : front ++ [Token.punct '{'] ≠ [] := List.append_ne_nil_of_right_ne_nil front (List.cons_ne_nil _ [])
  obtain ⟨c, noBlank, first⟩ := exists_head_spaced solid filled
  obtain ⟨before, last⟩ := Token.exists_spaced_concat front (.punct '{')
  refine ⟨@startsWith_append line "  " _ text, ?_, ?_⟩
  · -- the first token starts in the third column
    rw [← Bool.not_eq_true, startsWith_iff, text]
    rintro ⟨rest, same⟩
    have two : ' ' :: ' ' :: rest = (spaced (front ++ [.punct '{'])).toList := (List.cons.inj (List.cons.inj same).2).2
    rw [← two] at first
    rw [← Option.some.inj first] at noBlank
    exact absurd noBlank (by decide)
  · rw [text, last, List.getLast?_append, List.getLast?_append]
    rfl

/-- The line that the tokens are written in has the shape. -/
theorem Declares.shape_eq (declares : Declares shape ts) (solid : ∀ t ∈ ts, Token.Solid t.text)
    (text : line.text = shape.indentation ++ (spaced ts).toList) : line.shape = shape := by
  cases declares with
  | package =>
    rw [Token.toList_spaced_cons] at text
    have starts : line.startsWith "package" = true := startsWith_append text
    rw [Line.shape, starts, if_pos rfl]
  | header ends => exact (headerShaped_of_spaced solid ends text).shape_eq
  | @method kind ts =>
    obtain ⟨more, same⟩ := Token.exists_spaced_cons kind.token ts
    rw [same] at text
    apply MethodShaped.shape_eq
    cases kind with
    | constructor => exact ⟨"    ctor", by decide, startsWith_append text⟩
    | method => exact ⟨"    method", by decide, startsWith_append text⟩
  | @field kind ts =>
    obtain ⟨more, same⟩ := Token.exists_spaced_cons kind.token ts
    rw [same] at text
    apply FieldShaped.shape_eq
    cases kind with
    | field => exact ⟨"    field", by decide, startsWith_append text⟩
    | property => exact ⟨"    property", by decide, startsWith_append text⟩
    | enumConstant => exact ⟨"    enum_constant", by decide, startsWith_append text⟩

/-- Nothing in the line is taken for a blame. -/
theorem Declares.noBlame (declares : Declares shape ts) (solid : ∀ t ∈ ts, Token.Solid t.text) :
    Blame.split? (shape.indentation ++ (spaced ts).toList) = none := by
  cases declares with
  | @package t ts noBracket =>
    obtain ⟨more, same⟩ := Token.exists_spaced_cons t ts
    have noSpace : ∀ c ∈ "package".toList, (c != ' ') = true := List.all_eq_true.mp (by decide)
    rw [Token.toList_spaced_cons]
    apply Blame.split?_eq_none noSpace
    obtain ⟨c, -, first⟩ := (solid t (by simp)).first
    rw [first] at noBracket
    rw [same, List.head?_append, first]
    exact noBracket
  | header => exact Blame.split?_eq_none_of_indented _
  | method => exact Blame.split?_eq_none_of_indented _
  | field => exact Blame.split?_eq_none_of_indented _

/-- The blanks of the indentation have no tokens. -/
theorem scan_indentation (shape : Shape) (cs : List Char) :
    Token.scan false (shape.indentation ++ cs) = Token.scan false cs := by
  have blanks : ∀ c ∈ shape.indentation, Text.isBlank c = true := by
    cases shape <;> exact List.all_eq_true.mp (by decide)
  generalize shape.indentation = indentation at blanks
  induction indentation with
  | nil => rfl
  | cons c indentation ih =>
    exact (Token.scan_blank (blanks c List.mem_cons_self)).trans (ih fun d mem => blanks d (List.mem_cons_of_mem c mem))

/-- The line has the text of another but for its number. -/
theorem ofText_number (n : Nat) (text : String) : ofText n text = { ofText 0 text with number := n } := by
  unfold ofText
  dsimp only
  split <;> rfl

theorem solid_of_tokens {line : Line} (scanned : line.tokens = .ok ts) : ∀ t ∈ ts, Token.Solid t.text :=
  fun _ mem => (Token.scanned_of_scan (mapError_eq_ok.mp (mapError_eq_ok.mp scanned))).solid mem

/-- **A line that declares something keeps what it says** when it is written anew: only the text changes. -/
theorem Declares.respaced {n : Nat} {text : String} (declares : Declares (ofText n text).shape ts)
    (scanned : (ofText n text).tokens = .ok ts) :
    ∃ line, ofText n (respaced text) = line ∧ line.blame = (ofText n text).blame ∧
      line.shape = (ofText n text).shape ∧ line.tokens = .ok ts := by
  have solid := solid_of_tokens scanned
  rw [ofText_number] at declares scanned
  have scanned : (ofText 0 text).tokens = .ok ts := scanned
  have declares : Declares (ofText 0 text).shape ts := declares
  obtain ⟨c, noBlank, last⟩ := exists_getLast_spaced solid declares.ne_nil
  have filled : (ofText 0 text).shape.indentation ++ (spaced ts).toList ≠ [] := by
    intro nothing
    rw [(List.append_eq_nil_iff.mp nothing).2] at last
    cases last
  have trimmed : Text.trimEnd (blamePrefix text ++ ((ofText 0 text).shape.indentation ++ (spaced ts).toList)) =
      blamePrefix text ++ ((ofText 0 text).shape.indentation ++ (spaced ts).toList) :=
    Text.trimEnd_eq_self (by rw [List.getLast?_append, List.getLast?_append, last]; rfl) noBlank
  have written : Line.respaced text =
      String.ofList (blamePrefix text ++ ((ofText 0 text).shape.indentation ++ (spaced ts).toList)) := by
    simp only [Line.respaced, scanned]
  refine ⟨_, (congrArg (ofText n) written).trans (ofText_blamePrefix_append filled (declares.noBlame solid) trimmed),
    rfl, ?_, ?_⟩
  · rw [ofText_number n text]
    exact declares.shape_eq solid rfl
  · have again := Token.scan_spaced (mapError_eq_ok.mp (mapError_eq_ok.mp scanned))
    rw [← scan_indentation (ofText 0 text).shape] at again
    exact mapError_eq_ok.mpr (mapError_eq_ok.mpr again)

end Line

end SignatureLint
