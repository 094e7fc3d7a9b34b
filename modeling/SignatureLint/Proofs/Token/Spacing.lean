import Mathlib.Control.Monad.Basic
import SignatureLint.Proofs.Token.Step

/-!
# Tokens with one space between two of them

The spellings of a text's tokens, one space between two of them, are cut into the same tokens
(`scan_spaced`). A token that is spelled out before a space or the end of the text is read as it was
(`Starts.parted`): a space ends every word, closes no bracket, and is neither a digit after a minus nor a
slash after a slash. One token asks more: a bracket that stands alone is one only where no closing bracket is next, and
what was next to it still is, whatever blanks stood between (`Scanned.head?_eq`). Of a line this says that it can be
respaced, and that respacing it again changes nothing (`tokenize_spaced`).
-/

namespace SignatureLint

namespace Token

open Text

variable {afterOperand : Bool} {c : Char} {cs rest left after : List Char} {t u : Token} {ts : List Token}

/-! ## The first character -/

/-- The first character of a token is that of its text, and no blank. -/
theorem Starts.head (starts : Starts afterOperand cs t left) :
    ∃ c, isBlank c = false ∧ cs.head? = some c ∧ t.text.toList.head? = some c := by
  cases starts with
  | literal => exact ⟨'"', by decide, rfl, by rw [text, String.toList_ofList]; rfl⟩
  | atInterface => exact ⟨'@', by decide, rfl, by decide⟩
  | atSign => exact ⟨'@', by decide, rfl, by decide⟩
  | array => exact ⟨'[', by decide, rfl, by decide⟩
  | bracket => exact ⟨'[', by decide, rfl, by decide⟩
  | ellipsis => exact ⟨'.', by decide, rfl, by decide⟩
  | @word c _ _ first =>
    exact ⟨c, isBlank_of_isSpelling (isSpelling_of_first first), rfl, by rw [text, String.toList_ofList]; rfl⟩
  | @mark c _ opener =>
    simp only [isOpener, Bool.or_eq_false_iff] at opener
    exact ⟨c, opener.1.1.1, rfl, by rw [text, String.toList_singleton]; rfl⟩

/-- The first character of a text that is no blank is that of its first token. -/
theorem Scanned.head?_eq (scanned : Scanned afterOperand cs (t :: ts)) :
    (cs.dropWhile isBlank).head? = t.text.toList.head? := by
  generalize made : t :: ts = all at scanned
  induction scanned with
  | nil => cases made
  | comment => cases made
  | blank isBlank _ ih => rw [List.dropWhile_cons_of_pos isBlank, ih made]
  | @token _ cs _ _ _ starts =>
    cases made
    obtain ⟨c, noBlank, here, first⟩ := starts.head
    obtain ⟨rest, rfl⟩ := List.head?_eq_some_iff.mp here
    rw [List.dropWhile_cons_of_neg (Bool.eq_false_iff.mp noBlank), first]
    rfl

/-! ## A token on its own -/

/-- Nothing, or a space first. -/
def Parted (after : List Char) : Prop := ∀ c ∈ after.head?, c = ' '

theorem startsEllipsis_parted {word : List Char} (parted : Parted after)
    (noDots : startsEllipsis (c :: (word ++ rest)) = false) : startsEllipsis (c :: (word ++ after)) = false := by
  rw [← Bool.not_eq_true] at noDots ⊢
  intro dots
  obtain ⟨left, same⟩ := startsEllipsis_iff.mp dots
  have noSpace (cs : List Char) : after ≠ '.' :: cs := by
    rintro rfl
    cases parted '.' rfl
  apply noDots
  match word with
  | [] => exact absurd (List.cons.inj same).2 (noSpace _)
  | [d] => exact absurd (List.cons.inj (List.cons.inj same).2).2 (noSpace _)
  | d :: e :: word =>
    cases same
    rfl

/-- A word ends before a space. -/
theorem takeWord_of_parted (parted : Parted after) (decimal : Bool) (last : Char) :
    takeWord decimal last after = ([], after) := by
  cases after with
  | nil => rfl
  | cons d after =>
    have noWord : continuesWord decimal last ' ' = false := by
      simp [continuesWord, show isWordChar ' ' = false by decide]
    rw [parted d rfl, takeWord, noWord, Bool.not_false, Bool.or_true, if_pos rfl]

/-- Up to the space it is the word that it was. -/
theorem takeWord_parted (parted : Parted after) (decimal : Bool) (last : Char) (cs : List Char) :
    takeWord decimal last ((takeWord decimal last cs).1 ++ after) = ((takeWord decimal last cs).1, after) := by
  induction cs generalizing decimal last with
  | nil => exact takeWord_of_parted parted decimal last
  | cons d cs ih =>
    by_cases stops : (startsEllipsis (d :: cs) || !continuesWord decimal last d) = true
    · rw [takeWord, if_pos stops]
      exact takeWord_of_parted parted decimal last
    · obtain ⟨noDots, continues⟩ := Bool.or_eq_false_iff.mp (Bool.eq_false_iff.mpr stops)
      have append := takeWord_append (decimal && d != 'x' && d != 'X') d cs
      rw [← append] at noDots
      have noDots' := startsEllipsis_parted parted noDots
      rw [takeWord, if_neg stops]
      show takeWord decimal last (d :: (_ ++ after)) = _
      rw [takeWord, noDots', continues, Bool.or_self, if_neg Bool.false_ne_true, ih]

theorem continuesWord_of_isDigit {decimal : Bool} {last d : Char} (digit : d.isDigit = true) :
    continuesWord decimal last d = true := by
  rw [continuesWord, isWordChar_of_isDigit digit, Bool.true_or]

/-- What follows the first character of a word says the same of its sign. -/
theorem isSign_parted (parted : Parted after) (afterOperand decimal : Bool) (c : Char) (rest : List Char) :
    isSign afterOperand c ((takeWord decimal c rest).1 ++ after) = isSign afterOperand c rest := by
  have noDigit : after.head?.any Char.isDigit = false := by
    cases after with
    | nil => rfl
    | cons d after =>
      rw [parted d rfl]
      rfl
  have digits : ((takeWord decimal c rest).1 ++ after).head?.any Char.isDigit = rest.head?.any Char.isDigit := by
    cases rest with
    | nil => exact noDigit
    | cons d rest =>
      by_cases stops : (startsEllipsis (d :: rest) || !continuesWord decimal c d) = true
      · -- no digit ends a word
        have other : d.isDigit = false := by
          rw [← Bool.not_eq_true]
          intro digit
          rw [continuesWord_of_isDigit digit, Bool.not_true, Bool.or_false] at stops
          obtain ⟨left, same⟩ := startsEllipsis_iff.mp stops
          cases same
          cases digit
        rw [takeWord, if_pos stops]
        exact noDigit.trans other.symm
      · rw [takeWord, if_neg stops]
        rfl
  rw [isSign, isSign, digits]

theorem isSign_of_parted (parted : Parted after) : isSign afterOperand c after = false := by
  have same : isSign afterOperand c after = isSign afterOperand c [] := isSign_parted parted afterOperand false c []
  rw [same, isSign, List.head?_nil, Option.any_none, Bool.and_false, Bool.false_and]

/-- A literal ends at its closing quote, whatever is behind it. -/
theorem closeLiteral_append {body : List Char} (closed : closeLiteral cs = some (body, rest)) (after : List Char) :
    closeLiteral (body ++ after) = some (body, after) := by
  fun_induction closeLiteral cs generalizing body with
  | case1 => cases closed
  | case2 left =>
    cases closed
    rfl
  | case3 c left ih =>
    obtain ⟨⟨inner, _⟩, closed, same⟩ := Option.map_eq_some_iff.mp closed
    cases same
    simp only [List.cons_append, closeLiteral, ih closed, Option.map_some]
  | case4 c left notQuote notEscape ih =>
    obtain ⟨⟨inner, _⟩, closed, same⟩ := Option.map_eq_some_iff.mp closed
    cases same
    have noEscape : c ≠ '\\' := by
      rintro rfl
      cases left with
      | nil => cases closed
      | cons d left => exact notEscape d left rfl rfl
    have skip : closeLiteral (c :: (inner ++ after)) =
        (closeLiteral (inner ++ after)).map fun found => (c :: found.1, found.2) := by
      rw [closeLiteral]
      · exact fun same => notQuote same
      · exact fun d left same _ => noEscape same
    rw [List.cons_append, skip, ih closed]
    rfl

theorem takeWhile_of_parted (parted : Parted after) :
    after.takeWhile isWordChar = [] ∧ after.dropWhile isWordChar = after := by
  cases after with
  | nil => exact ⟨rfl, rfl⟩
  | cons d after =>
    have noWord : ¬ isWordChar ' ' = true := by decide
    rw [parted d rfl, List.takeWhile_cons_of_neg noWord, List.dropWhile_cons_of_neg noWord]
    exact ⟨rfl, rfl⟩

/-- **A token that is spelled out before a space** or the end of the text is read as it was. -/
theorem Starts.parted (starts : Starts afterOperand cs t left) (parted : Parted after)
    (bracket : t = .punct '[' → (after.dropWhile isBlank).head? ≠ some ']') :
    Starts afterOperand (t.text.toList ++ after) t after := by
  obtain ⟨noWord, kept⟩ := takeWhile_of_parted parted
  cases starts with
  | literal closed =>
    rw [text, String.toList_ofList]
    exact .literal (closeLiteral_append closed after)
  | atInterface =>
    have letters : ∀ c ∈ "interface".toList, isWordChar c = true := List.all_eq_true.mp (by decide)
    have word : ("interface".toList ++ after).takeWhile isWordChar = "interface".toList := by
      rw [List.takeWhile_append_of_pos letters, noWord, List.append_nil]
    have rest : ("interface".toList ++ after).dropWhile isWordChar = after := by
      rw [List.dropWhile_append_of_pos letters, kept]
    have here := @atInterface afterOperand ("interface".toList ++ after) (by rw [word, String.ofList_toList])
    rw [rest] at here
    exact here
  | atSign => exact @atSign afterOperand after (by rw [noWord]; decide)
  | array => exact .array rfl
  | bracket => exact .bracket (bracket rfl)
  | ellipsis => exact .ellipsis
  | @word c rest noDots first =>
    have sign := isSign_parted parted afterOperand (isSign afterOperand c rest || c.isDigit) c rest
    have word := takeWord_parted parted (isSign afterOperand c rest || c.isDigit) c rest
    have append := takeWord_append (isSign afterOperand c rest || c.isDigit) c rest
    rw [← append] at noDots
    rw [← sign] at first
    have here := @Starts.word afterOperand c _ (startsEllipsis_parted parted noDots) first
    rw [sign, word] at here
    rw [text, String.toList_ofList]
    exact here
  | @mark c rest opener noComment noDots noSign noWord =>
    rw [text, String.toList_singleton]
    have noSlash : after.head? ≠ some '/' := fun slash => absurd (parted '/' slash) (by decide)
    have noComment : (c = '/' && after.head? = some '/') = false := by rw [decide_eq_false noSlash, Bool.and_false]
    have noDots : startsEllipsis (c :: after) = false :=
      @startsEllipsis_parted c [] after [] parted (by simp [startsEllipsis])
    exact .mark opener noComment noDots (isSign_of_parted parted) noWord

/-! ## All tokens -/

theorem toList_spaced_cons (t u : Token) (ts : List Token) :
    (spaced (t :: u :: ts)).toList = t.text.toList ++ ' ' :: (spaced (u :: ts)).toList := by
  rw [spaced, List.map_cons, List.map_cons, String.intercalate_cons_cons, String.toList_append, String.toList_append,
    List.append_assoc]
  rfl

/-- The spellings start with the first token. -/
theorem exists_spaced_cons (t : Token) (ts : List Token) :
    ∃ more, (spaced (t :: ts)).toList = t.text.toList ++ more := by
  cases ts with
  | nil => exact ⟨[], (List.append_nil _).symm⟩
  | cons u ts => exact ⟨_, toList_spaced_cons t u ts⟩

/-- The spellings end with the last token. -/
theorem exists_spaced_concat (ts : List Token) (t : Token) :
    ∃ more, (spaced (ts ++ [t])).toList = more ++ t.text.toList := by
  induction ts with
  | nil => exact ⟨[], rfl⟩
  | cons u ts ih =>
    obtain ⟨more, ends⟩ := ih
    obtain ⟨v, rest, same⟩ := List.exists_cons_of_ne_nil (List.append_ne_nil_of_right_ne_nil ts (List.cons_ne_nil t []))
    rw [same] at ends
    exact ⟨u.text.toList ++ ' ' :: more, by rw [List.cons_append, same, toList_spaced_cons, ends]; simp⟩

/-- A first token before a space or the end is read, and then what is after it. -/
theorem Starts.scan_spaced (starts : Starts afterOperand cs t left) (more : Scanned t.endsOperand left ts)
    (again : scan t.endsOperand (spaced ts).toList = .ok ts) :
    scan afterOperand (spaced (t :: ts)).toList = .ok (t :: ts) := by
  cases ts with
  | nil =>
    have parted : Parted [] := fun c listed => by cases listed
    have alone := starts.parted parted (fun _ => by decide)
    have same : (spaced [t]).toList = t.text.toList ++ [] := (List.append_nil _).symm
    rw [same, alone.scan_eq, scan_nil]
    rfl
  | cons u ts =>
    have parted : Parted (' ' :: (spaced (u :: ts)).toList) := fun c first => (Option.some.inj first).symm
    have blank : isBlank ' ' = true := by decide
    have here := starts.parted parted ?_
    · rw [toList_spaced_cons, here.scan_eq, scan_blank blank, again]
      rfl
    · -- what was next to the bracket is next to it again
      rintro rfl closed
      rw [List.dropWhile_cons_of_pos blank, (scanned_of_scan again).head?_eq, ← more.head?_eq] at closed
      cases starts with
      | bracket notClosed => exact notClosed closed
      | mark opener => cases opener

/-- **Single spaces are as good as any**: the spellings of a text's tokens, one space between two of them, have
the tokens of the text. -/
theorem scan_spaced (scanned : scan afterOperand cs = .ok ts) : scan afterOperand (spaced ts).toList = .ok ts := by
  have steps := scanned_of_scan scanned
  clear scanned
  induction steps with
  | nil => exact scan_nil
  | comment => exact scan_nil
  | blank _ _ ih => exact ih
  | token starts more ih => exact starts.scan_spaced more ih

/-! ## The ends of tokens -/

/-- The text neither starts nor ends in a blank, and is not empty. -/
structure Solid (text : String) : Prop where
  first : ∃ c, isBlank c = false ∧ text.toList.head? = some c
  last : ∃ c, isBlank c = false ∧ text.toList.getLast? = some c

theorem closeLiteral_ends {body : List Char} (closed : closeLiteral cs = some (body, rest)) :
    body.getLast? = some '"' := by
  fun_induction closeLiteral cs generalizing body with
  | case1 => cases closed
  | case2 left =>
    cases closed
    rfl
  | case3 c left ih =>
    obtain ⟨⟨inner, _⟩, closed, same⟩ := Option.map_eq_some_iff.mp closed
    cases same
    rw [List.getLast?_cons, List.getLast?_cons, ih closed]
    rfl
  | case4 c left _ _ ih =>
    obtain ⟨⟨inner, _⟩, closed, same⟩ := Option.map_eq_some_iff.mp closed
    cases same
    rw [List.getLast?_cons, ih closed]
    rfl

theorem Starts.solid (starts : Starts afterOperand cs t left) : Solid t.text where
  first := by
    obtain ⟨c, noBlank, -, first⟩ := starts.head
    exact ⟨c, noBlank, first⟩
  last := by
    cases starts with
    | literal closed =>
      refine ⟨'"', by decide, ?_⟩
      rw [text, String.toList_ofList, List.getLast?_cons, closeLiteral_ends closed]
      rfl
    | atInterface => exact ⟨'e', by decide, by decide⟩
    | atSign => exact ⟨'@', by decide, by decide⟩
    | array => exact ⟨']', by decide, by decide⟩
    | bracket => exact ⟨'[', by decide, by decide⟩
    | ellipsis => exact ⟨'.', by decide, by decide⟩
    | word noDots first =>
      have spelled := (Starts.word noDots first).isSpelled
      rw [IsSpelled, String.toList_ofList] at spelled
      rw [text, String.toList_ofList]
      exact ⟨_, isBlank_of_isSpelling (spelled _ (List.mem_of_getLast? List.getLast?_cons)), List.getLast?_cons⟩
    | @mark c _ opener =>
      simp only [isOpener, Bool.or_eq_false_iff] at opener
      exact ⟨c, opener.1.1.1, by rw [text, String.toList_singleton]; rfl⟩

/-- Every token of a text is solid. -/
theorem Scanned.solid (scanned : Scanned afterOperand cs ts) (mem : t ∈ ts) : Solid t.text := by
  induction scanned with
  | nil => cases mem
  | comment => cases mem
  | blank _ _ ih => exact ih mem
  | token starts _ ih =>
    rcases List.mem_cons.mp mem with rfl | mem
    · exact starts.solid
    · exact ih mem

end Token

/-! ## Lines -/

/-- The line with one space between two of its tokens. -/
def normalSpacing (line : List Char) : Except LexError (List Char) :=
  (tokenize line).map fun tokens => (spaced tokens).toList

/-- **Respacing a line keeps its tokens**, kinds and texts: the spellings of the tokens, one space between two of
them, are cut into these tokens again, and such a line is respaced to itself. -/
theorem tokenize_spaced {line : List Char} {tokens : List Token} (lexed : tokenize line = .ok tokens) :
    tokenize (spaced tokens).toList = .ok tokens ∧
      normalSpacing (spaced tokens).toList = .ok (spaced tokens).toList := by
  have again : tokenize (spaced tokens).toList = .ok tokens := by
    rw [tokenize, Token.scan_spaced (mapError_eq_ok.mp lexed)]
    rfl
  refine ⟨again, ?_⟩
  rw [normalSpacing, again]
  rfl

/-- A line in which all that a token is told by stands next to it: signs, dots, exponents, brackets and slashes. -/
def crampedLine : List Char := "@interface @ interfaces a....b..c =-1e-5 x-1 -0x1e-5[ ][\t]int[ / /\"/\\/\\\"\"//\"".toList

/-- Its tokens. -/
def crampedTokens : List Token := [
  .atInterface, .atSign, .word "interfaces", .word "a", .ellipsis, .word ".b..c", .punct '=', .word "-1e-5", .word "x",
  .punct '-', .word "1", .punct '-', .word "0x1e", .punct '-', .word "5", .array, .array, .word "int", .punct '[',
  .punct '/', .punct '/', .literal "\"/\\/\\\"\""]

theorem tokenize_spaced_cramped :
    tokenize crampedLine = .ok crampedTokens ∧ tokenize (spaced crampedTokens).toList = .ok crampedTokens ∧
      normalSpacing (spaced crampedTokens).toList = .ok (spaced crampedTokens).toList := by
  have lexed : tokenize crampedLine = .ok crampedTokens := by decide +kernel
  exact ⟨lexed, tokenize_spaced lexed⟩

end SignatureLint
