import Mathlib.Data.List.TakeWhile
import SignatureLint.Proofs.Token.Step

/-!
# Lines as blanks and lexemes

A line that has tokens is blanks and the spellings of its tokens in turn, up to its end or to a comment
(`Lexemes`); no character is lost and none is used twice. A literal is complete, and a word is as long as it
can be.

A line has no tokens just when a quote opens a literal that is never closed (`tokenize_lexemes`). Which quotes
open literals is told without the tokens: `Outside` follows a text character by character and literal by
literal, and both the comments and the quotes inside of literals are passed over.
-/

namespace SignatureLint

namespace Token

open Text

/-! ## Literals -/

/-- What stands between the quotes of a literal. A backslash takes the character after it into the literal,
and no quote stands there without one. -/
inductive Quoted : List Char → Prop where
  | nil : Quoted []
  | escaped {c : Char} {cs : List Char} : Quoted cs → Quoted ('\\' :: c :: cs)
  | plain {c : Char} {cs : List Char} : c ≠ '"' → c ≠ '\\' → Quoted cs → Quoted (c :: cs)

/-- A quote that no backslash escapes comes somewhere. -/
def Closes (cs : List Char) : Prop := ∃ inner left, Quoted inner ∧ cs = inner ++ '"' :: left

variable {afterOperand : Bool} {c : Char} {cs rest left before after inner : List Char} {t : Token} {ts : List Token}

theorem closeLiteral_plain (noQuote : c ≠ '"') (noEscape : c ≠ '\\') :
    closeLiteral (c :: cs) = (closeLiteral cs).map fun found => (c :: found.1, found.2) := by
  rw [closeLiteral]
  · exact noQuote
  · exact fun _ _ same _ => noEscape same

/-- A literal is closed by the first quote that can close it. -/
theorem Quoted.closeLiteral_append (quoted : Quoted inner) (left : List Char) :
    closeLiteral (inner ++ '"' :: left) = some (inner ++ ['"'], left) := by
  induction quoted with
  | nil => rfl
  | escaped _ ih => simp only [List.cons_append, closeLiteral, ih, Option.map_some]
  | plain noQuote noEscape _ ih =>
    rw [List.cons_append, closeLiteral_plain noQuote noEscape, ih]
    rfl

theorem exists_quoted {body : List Char} (closed : closeLiteral cs = some (body, left)) :
    ∃ inner, Quoted inner ∧ body = inner ++ ['"'] ∧ cs = inner ++ '"' :: left := by
  fun_induction closeLiteral cs generalizing body with
  | case1 => cases closed
  | case2 =>
    cases closed
    exact ⟨[], .nil, rfl, rfl⟩
  | case3 c cs ih =>
    obtain ⟨⟨_, _⟩, more, same⟩ := Option.map_eq_some_iff.mp closed
    cases same
    obtain ⟨inner, quoted, rfl, rfl⟩ := ih more
    exact ⟨'\\' :: c :: inner, .escaped quoted, rfl, rfl⟩
  | case4 c cs noQuote noEscape ih =>
    obtain ⟨⟨_, _⟩, more, same⟩ := Option.map_eq_some_iff.mp closed
    cases same
    obtain ⟨inner, quoted, rfl, rfl⟩ := ih more
    refine ⟨c :: inner, .plain (fun quote => noQuote quote) ?_ quoted, rfl, rfl⟩
    rintro rfl
    -- a backslash has a character after it here
    cases inner with
    | nil => exact noEscape '"' left rfl rfl
    | cons d inner => exact noEscape d _ rfl rfl

theorem closeLiteral_eq_none_iff : closeLiteral cs = none ↔ ¬ Closes cs := by
  constructor
  · rintro unclosed ⟨inner, left, quoted, rfl⟩
    rw [quoted.closeLiteral_append] at unclosed
    cases unclosed
  · intro open_
    cases closed : closeLiteral cs with
    | none => rfl
    | some found =>
      obtain ⟨inner, quoted, -, same⟩ := exists_quoted closed
      exact absurd ⟨inner, found.2, quoted, same⟩ open_

/-! ## Lexemes -/

/-- How a token is spelled in a line: by its text, but blanks may stand between the brackets of an array. -/
inductive Spelling : Token → List Char → Prop where
  | text {t : Token} : t ≠ .array → Spelling t t.text.toList
  | array {blanks : List Char} : (∀ c ∈ blanks, isBlank c = true) → Spelling .array ('[' :: (blanks ++ [']']))

/-- What literals and words are made of, and that a word ends only where it must: before three dots, or before
a character of no word. `rest` is what follows the token. -/
def IsWhole (rest : List Char) : Token → Prop
  | .literal text => ∃ inner, Quoted inner ∧ text.toList = '"' :: (inner ++ ['"'])
  | .word text => text ≠ "" ∧ ¬ "...".toList <:+: text.toList ∧
      ∀ c ∈ rest.head?, isWordChar c = true → startsEllipsis rest = true
  | _ => True

/-- A line is blanks and the spellings of the tokens in turn, and then nothing or a comment. -/
inductive Lexemes : List Token → List Char → Prop where
  | done {blanks : List Char} : (∀ c ∈ blanks, isBlank c = true) → Lexemes [] blanks
  | comment {blanks rest : List Char} : (∀ c ∈ blanks, isBlank c = true) → Lexemes [] (blanks ++ '/' :: '/' :: rest)
  | token {t : Token} {ts : List Token} {blanks spelling rest : List Char} :
    (∀ c ∈ blanks, isBlank c = true) → Spelling t spelling → t.IsWhole rest → Lexemes ts rest →
      Lexemes (t :: ts) (blanks ++ (spelling ++ rest))

theorem Lexemes.blank (blank : isBlank c = true) (lexemes : Lexemes ts cs) : Lexemes ts (c :: cs) := by
  cases lexemes with
  | done blanks => exact .done (List.forall_mem_cons.mpr ⟨blank, blanks⟩)
  | comment blanks => exact .comment (List.forall_mem_cons.mpr ⟨blank, blanks⟩)
  | token blanks spelling whole more => exact .token (List.forall_mem_cons.mpr ⟨blank, blanks⟩) spelling whole more

/-- No three dots are inside of a word after its first character. -/
theorem takeWord_noEllipsis {decimal : Bool} {last : Char} {front back : List Char} :
    (takeWord decimal last cs).1 ≠ front ++ '.' :: '.' :: '.' :: back := by
  induction cs generalizing decimal last front with
  | nil => simp [takeWord]
  | cons d cs ih =>
    intro same
    have append := takeWord_append decimal last (d :: cs)
    rw [takeWord] at same append
    split at same
    · simp at same
    next goesOn =>
      rw [if_neg goesOn] at append
      cases front with
      | nil =>
        rw [same] at append
        apply goesOn
        rw [← append]
        rfl
      | cons e front => exact ih (List.cons.inj same).2

/-- A word ends before three dots, or before a character of no word. -/
theorem takeWord_stops {decimal : Bool} {last d : Char} (next : d ∈ (takeWord decimal last cs).2.head?)
    (word : isWordChar d = true) : startsEllipsis (takeWord decimal last cs).2 = true := by
  induction cs generalizing decimal last with
  | nil => cases next
  | cons e cs ih =>
    rw [takeWord] at next ⊢
    split at next
    next stops =>
      rw [if_pos stops]
      cases next
      rw [continuesWord, word, Bool.true_or, Bool.not_true, Bool.or_false] at stops
      exact stops
    next goesOn =>
      rw [if_neg goesOn]
      exact ih next

theorem Starts.isWhole (starts : Starts afterOperand cs t left) : t.IsWhole left := by
  cases starts with
  | literal closed =>
    obtain ⟨inner, quoted, rfl, -⟩ := exists_quoted closed
    exact ⟨inner, quoted, String.toList_ofList⟩
  | @word c rest noDots first =>
    refine ⟨?_, ?_, fun d next word => takeWord_stops next word⟩
    · intro empty
      have chars := congrArg String.toList empty
      rw [String.toList_ofList] at chars
      cases chars
    · rintro ⟨front, back, same⟩
      replace same : front ++ ['.', '.', '.'] ++ back = _ := same.trans String.toList_ofList
      have append := takeWord_append (isSign afterOperand c rest || c.isDigit) c rest
      cases front with
      | nil =>
        -- the dots would stand where the word starts
        have dots : startsEllipsis (c :: rest) = true := by
          rw [← append, ← List.cons_append, ← same]
          rfl
        rw [noDots] at dots
        cases dots
      | cons e front =>
        rw [List.append_assoc, List.cons_append] at same
        exact takeWord_noEllipsis (List.cons.inj same).2.symm
  | atInterface => trivial
  | atSign => trivial
  | array => trivial
  | bracket => trivial
  | ellipsis => trivial
  | mark => trivial

/-! ## What a token takes -/

/-- No quote and no slash. -/
def Quiet (cs : List Char) : Prop := ∀ c ∈ cs, c ≠ '"' ∧ c ≠ '/'

theorem quiet_of_isSpelling (spelled : ∀ c ∈ cs, isSpelling c = true) : Quiet cs := fun c mem =>
  ⟨ne_of_isSpelling (spelled c mem) (by decide), ne_of_isSpelling (spelled c mem) (by decide)⟩

theorem quiet_of_isBlank (blank : ∀ c ∈ cs, isBlank c = true) : Quiet cs := by
  intro c mem
  have here := blank c mem
  constructor
  · rintro rfl
    exact absurd here (by decide)
  · rintro rfl
    exact absurd here (by decide)

/-- The characters of a token: a literal; a slash that starts no comment; or neither quotes nor slashes. -/
inductive Taken : List Char → List Char → Prop where
  | literal {inner left : List Char} : Quoted inner → Taken ('"' :: (inner ++ ['"'])) left
  | slash {left : List Char} : left.head? ≠ some '/' → Taken ['/'] left
  | quiet {spelling left : List Char} : Quiet spelling → Taken spelling left

/-- **A token takes its spelling off the text**, and leaves the rest. -/
theorem Starts.exists_spelling (starts : Starts afterOperand cs t left) :
    ∃ spelling, cs = spelling ++ left ∧ Spelling t spelling ∧ Taken spelling left := by
  cases starts with
  | literal closed =>
    obtain ⟨inner, quoted, rfl, rfl⟩ := exists_quoted closed
    refine ⟨'"' :: (inner ++ ['"']), by simp, ?_, .literal quoted⟩
    have spelling := @Spelling.text (.literal (String.ofList ('"' :: (inner ++ ['"'])))) nofun
    rwa [text, String.toList_ofList] at spelling
  | @atInterface rest keyword =>
    refine ⟨"@interface".toList, ?_, .text nofun, .quiet ?_⟩
    · have word : rest.takeWhile isWordChar = "interface".toList := by rw [← keyword, String.toList_ofList]
      have append := List.takeWhile_append_dropWhile (p := isWordChar) (l := rest)
      rw [word] at append
      exact (congrArg ('@' :: ·) append).symm
    · simp [Quiet]
  | atSign => exact ⟨"@".toList, rfl, .text nofun, .quiet (by simp [Quiet])⟩
  | @array rest _ closed =>
    have blanks : ∀ c ∈ rest.takeWhile isBlank, isBlank c = true := fun c mem => List.mem_takeWhile_imp mem
    refine ⟨'[' :: (rest.takeWhile isBlank ++ [']']), ?_, .array blanks, .quiet ?_⟩
    · have append := List.takeWhile_append_dropWhile (p := isBlank) (l := rest)
      rw [closed] at append
      rw [List.cons_append, List.append_assoc]
      exact (congrArg ('[' :: ·) append).symm
    · intro c mem
      rcases List.mem_cons.mp mem with rfl | mem
      · decide
      rcases List.mem_append.mp mem with mem | mem
      · exact quiet_of_isBlank blanks c mem
      · rw [List.mem_singleton.mp mem]
        decide
  | bracket => exact ⟨"[".toList, rfl, .text nofun, .quiet (by simp [Quiet])⟩
  | ellipsis => exact ⟨"...".toList, rfl, .text nofun, .quiet (by simp [Quiet])⟩
  | @word c rest noDots first =>
    have spelled := (Starts.word noDots first).isSpelled
    refine ⟨_, ?_, .text nofun, .quiet (quiet_of_isSpelling spelled)⟩
    rw [text, String.toList_ofList, List.cons_append, takeWord_append]
  | @mark c rest opener noComment =>
    refine ⟨[c], rfl, ?_, ?_⟩
    · have spelling := @Spelling.text (.punct c) nofun
      rwa [text, String.toList_singleton] at spelling
    · by_cases slash : c = '/'
      · subst slash
        refine .slash fun next => ?_
        simp [next] at noComment
      · refine .quiet fun d mem => ?_
        rw [List.mem_singleton.mp mem]
        refine ⟨?_, slash⟩
        rintro rfl
        exact absurd opener (by decide)

/-- The tokens of a text are its lexemes. -/
theorem Scanned.lexemes (scanned : Scanned afterOperand cs ts) : Lexemes ts cs := by
  induction scanned with
  | nil => exact .done nofun
  | comment => exact @Lexemes.comment [] _ nofun
  | blank blank _ ih => exact ih.blank blank
  | token starts _ ih =>
    obtain ⟨spelling, rfl, spelled, -⟩ := starts.exists_spelling
    exact @Lexemes.token _ _ [] _ _ nofun spelled starts.isWhole ih

/-! ## Outside of literals -/

/-- A text that ends outside of all literals, and in which no comment starts outside of them. -/
inductive Outside : List Char → Prop where
  | nil : Outside []
  | char {c : Char} {cs : List Char} :
    c ≠ '"' → ¬ (c = '/' ∧ cs.head? = some '/') → Outside cs → Outside (c :: cs)
  | literal {inner cs : List Char} : Quoted inner → Outside cs → Outside ('"' :: (inner ++ '"' :: cs))

/-- A quote opens a literal after `before`, and nothing in `after` closes it. -/
structure Dangles (before after : List Char) : Prop where
  outside : Outside before
  unclosed : ¬ Closes after

theorem Outside.quiet_append {spelling : List Char} (quiet : Quiet spelling) (outside : Outside before) :
    Outside (spelling ++ before) := by
  induction spelling with
  | nil => exact outside
  | cons c spelling ih =>
    obtain ⟨⟨noQuote, noSlash⟩, quiet⟩ := List.forall_mem_cons.mp quiet
    exact .char noQuote (fun slashes => noSlash slashes.1) (ih quiet)

theorem Outside.of_char (noQuote : c ≠ '"') (outside : Outside (c :: cs)) : Outside cs := by
  cases outside with
  | char _ _ outside => exact outside
  | literal => exact absurd rfl noQuote

/-- A text before a quote goes on with what stands after its first characters, if there is no quote among them. -/
theorem Outside.of_quiet_append {spelling : List Char} (quiet : Quiet spelling)
    (same : spelling ++ left = before ++ '"' :: after) (outside : Outside before) :
    ∃ before', left = before' ++ '"' :: after ∧ Outside before' := by
  induction spelling generalizing before with
  | nil => exact ⟨before, same, outside⟩
  | cons c spelling ih =>
    obtain ⟨⟨noQuote, -⟩, quiet⟩ := List.forall_mem_cons.mp quiet
    cases before with
    | nil => exact absurd (List.cons.inj same).1 noQuote
    | cons d before =>
      rw [List.cons_append, List.cons_append] at same
      obtain ⟨rfl, tails⟩ := List.cons.inj same
      exact ih quiet tails (outside.of_char noQuote)

/-- What dangles behind a token dangles behind the text before it. -/
theorem Taken.outside_append {spelling : List Char} (taken : Taken spelling (before ++ '"' :: after))
    (outside : Outside before) : Outside (spelling ++ before) := by
  cases taken with
  | literal quoted =>
    rw [List.cons_append, List.append_assoc]
    exact .literal quoted outside
  | slash noSlash =>
    refine .char (by decide) (fun slashes => noSlash ?_) outside
    obtain ⟨more, rfl⟩ := List.head?_eq_some_iff.mp slashes.2
    rfl
  | quiet quiet => exact outside.quiet_append quiet

/-- A token leaves what dangles to the text after it. -/
theorem Taken.dangles {spelling : List Char} (taken : Taken spelling left)
    (same : spelling ++ left = before ++ '"' :: after) (dangles : Dangles before after) :
    ∃ before', left = before' ++ '"' :: after ∧ Dangles before' after := by
  suffices found : ∃ before', left = before' ++ '"' :: after ∧ Outside before' by
    obtain ⟨before', same, outside⟩ := found
    exact ⟨before', same, outside, dangles.unclosed⟩
  obtain ⟨outside, unclosed⟩ := dangles
  cases taken with
  | literal quoted =>
    rw [List.cons_append, List.append_assoc, List.singleton_append] at same
    cases outside with
    | nil =>
      -- the quote that dangles would be closed
      exact absurd ⟨_, left, quoted, (List.cons.inj same).2.symm⟩ unclosed
    | char noQuote => exact absurd (List.cons.inj same).1.symm noQuote
    | @literal inner cs quoted' outside =>
      have closed := quoted.closeLiteral_append left
      have tails := (List.cons.inj same).2
      rw [List.append_eq, List.append_assoc, List.cons_append] at tails
      rw [tails, quoted'.closeLiteral_append] at closed
      have ends := (Prod.mk.inj (Option.some.inj closed)).2
      exact ⟨cs, ends.symm, outside⟩
  | slash =>
    cases before with
    | nil => exact absurd (List.cons.inj same).1 (by decide)
    | cons d before =>
      obtain ⟨rfl, tails⟩ := List.cons.inj same
      exact ⟨before, tails, outside.of_char (by decide)⟩
  | quiet quiet => exact outside.of_quiet_append quiet same

theorem next_eq_unterminated (found : next afterOperand c rest = .unterminated) :
    c = '"' ∧ closeLiteral rest = none := by
  unfold next at found
  simp only at found
  repeat' split at found
  all_goals cases found
  exact ⟨‹_›, ‹_›⟩

/-- What a scan fails on is the first quote that dangles. -/
theorem dangles_of_scan {dangling : List Char} (failed : scan afterOperand cs = .error dangling) :
    ∃ before after, cs = before ++ '"' :: after ∧ dangling = '"' :: after ∧ Dangles before after := by
  fun_induction scan afterOperand cs with
  | case1 => cases failed
  | case2 => cases failed
  | case3 afterOperand c rest open_ =>
    cases failed
    obtain ⟨rfl, unclosed⟩ := next_eq_unterminated open_
    exact ⟨[], rest, rfl, rfl, .nil, closeLiteral_eq_none_iff.mp unclosed⟩
  | case4 afterOperand c rest left blank ih =>
    obtain ⟨isBlank, rfl⟩ := next_eq_blank blank
    obtain ⟨before, after, rfl, rfl, outside, unclosed⟩ := ih failed
    have quiet : Quiet [c] := quiet_of_isBlank fun d mem => by rwa [List.mem_singleton.mp mem]
    exact ⟨c :: before, after, rfl, rfl, outside.quiet_append quiet, unclosed⟩
  | case5 afterOperand c rest t left token ih =>
    cases more : scan t.endsOperand left with
    | ok ts =>
      rw [more] at failed
      cases failed
    | error d =>
      rw [more] at failed
      cases failed
      obtain ⟨before, after, rfl, rfl, outside, unclosed⟩ := ih more
      obtain ⟨spelling, same, -, taken⟩ := (next_eq_token_iff.mp token).exists_spelling
      refine ⟨spelling ++ before, after, ?_, rfl, taken.outside_append outside, unclosed⟩
      rw [same, List.append_assoc]

theorem scan_of_dangles (dangles : Dangles before after) (same : cs = before ++ '"' :: after) :
    scan afterOperand cs = .error ('"' :: after) := by
  fun_induction scan afterOperand cs generalizing before with
  | case1 => simp at same
  | case2 afterOperand c rest comment =>
    obtain ⟨left, slashes⟩ := next_eq_comment comment
    rw [slashes] at same
    cases dangles.outside with
    | nil => exact absurd (List.cons.inj same).1 (by decide)
    | @char d before _ noComment =>
      obtain ⟨rfl, tails⟩ := List.cons.inj same
      refine absurd ⟨rfl, ?_⟩ noComment
      cases before with
      | nil => exact absurd (List.cons.inj tails).1 (by decide)
      | cons d before => exact congrArg some (List.cons.inj tails).1.symm
    | literal => exact absurd (List.cons.inj same).1 (by decide)
  | case3 afterOperand c rest open_ =>
    obtain ⟨rfl, unclosed⟩ := next_eq_unterminated open_
    cases dangles.outside with
    | nil => exact congrArg Except.error same
    | char noQuote => exact absurd (List.cons.inj same).1.symm noQuote
    | literal quoted =>
      have tails := (List.cons.inj same).2
      rw [List.append_eq, List.append_assoc, List.cons_append] at tails
      rw [tails, quoted.closeLiteral_append] at unclosed
      cases unclosed
  | case4 afterOperand c rest left blank ih =>
    obtain ⟨isBlank, rfl⟩ := next_eq_blank blank
    have quiet : Quiet [c] := quiet_of_isBlank fun d mem => by rwa [List.mem_singleton.mp mem]
    obtain ⟨before', same', outside⟩ := dangles.outside.of_quiet_append quiet same
    exact ih ⟨outside, dangles.unclosed⟩ same'
  | case5 afterOperand c rest t left token ih =>
    obtain ⟨spelling, split, -, taken⟩ := (next_eq_token_iff.mp token).exists_spelling
    obtain ⟨before', same', dangles'⟩ := taken.dangles (split.symm.trans same) dangles
    rw [ih dangles' same']
    rfl

end Token

/-- **A line is told by its lexemes, or by the quote that dangles.** The tokens of a line are spelled in it one
after the other, with nothing but blanks between them and nothing but a comment behind them. There are none just
where a quote that is neither in a literal nor in a comment opens a literal without an end, and the column that is
reported is that of this quote. -/
theorem tokenize_lexemes (line : List Char) :
    (∀ ts, tokenize line = .ok ts → Token.Lexemes ts line) ∧
    ∀ column, tokenize line = .error (.unterminatedLiteral column) ↔
      ∃ before after, line = before ++ '"' :: after ∧ before.length = column ∧ Token.Dangles before after := by
  refine ⟨fun ts lexed => (Token.scanned_of_scan (mapError_eq_ok.mp lexed)).lexemes, fun column => ?_⟩
  unfold tokenize
  constructor
  · intro failed
    cases scanned : Token.scan false line with
    | ok ts =>
      rw [scanned] at failed
      cases failed
    | error dangling =>
      rw [scanned] at failed
      obtain ⟨before, after, rfl, rfl, dangles⟩ := Token.dangles_of_scan scanned
      refine ⟨before, after, rfl, ?_, dangles⟩
      cases failed
      simp
  · rintro ⟨before, after, rfl, rfl, dangles⟩
    rw [Token.scan_of_dangles dangles rfl]
    simp [Except.mapError]

/-- A literal with a comment and a quote in it, and a comment with a quote in it. -/
def commentedLine : List Char := "x...[ ]=\"// \\\"\" // \"".toList

/-- A quote after a literal and two slashes apart; the only quote behind it is escaped. -/
def danglingLine : List Char := "x \"a\"/ /\"b\\\" // c".toList

theorem tokenize_lexemes_dangling :
    let tokens : List Token := [.word "x", .ellipsis, .array, .punct '=', .literal "\"// \\\"\""]
    tokenize commentedLine = .ok tokens ∧ Token.Lexemes tokens commentedLine ∧
      Token.Dangles "x \"a\"/ /".toList "b\\\" // c".toList ∧
      tokenize danglingLine = .error (.unterminatedLiteral 8) := by
  intro tokens
  have lexed : tokenize commentedLine = .ok tokens := by decide +kernel
  have outside : Token.Outside "x \"a\"/ /".toList := by
    refine .char (by decide) (by decide) (.char (by decide) (by decide) ?_)
    have quoted : Token.Quoted ['a'] := .plain (by decide) (by decide) .nil
    refine .literal quoted ?_
    exact .char (by decide) (by decide) (.char (by decide) (by decide) (.char (by decide) (by decide) .nil))
  have dangles : Token.Dangles "x \"a\"/ /".toList "b\\\" // c".toList :=
    ⟨outside, Token.closeLiteral_eq_none_iff.mp (by decide)⟩
  have failed := ((tokenize_lexemes danglingLine).2 8).mpr ⟨_, _, rfl, rfl, dangles⟩
  exact ⟨lexed, (tokenize_lexemes commentedLine).1 tokens lexed, dangles, failed⟩

end SignatureLint
