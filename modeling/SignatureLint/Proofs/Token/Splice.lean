import SignatureLint.Proofs.Token.Lexeme
import SignatureLint.Proofs.Token.Spacing

/-!
# Tokens written anew in their place

`splice` puts another text in the place of some of a line's tokens and leaves what stands before and behind them as it
is. If these tokens stand behind one that announces a value, their spellings with one space between two of them can be
put there: the line is cut into the same tokens (`scan_splice`).

A token is told by its characters and by a little of what follows it (`Starts.congr`): the next character, whether three
dots are next, what word stands behind `@` and what bracket behind `[`. None of this crosses the first character of a
token that announces a value (`Reads.announced`), and all that such a token asks of the text behind it is that it does
not go on with its word.
-/

namespace SignatureLint

namespace Token

open Text

/-! ## The place of some tokens -/

/-- The text behind its first tokens, `count` of them. -/
def behind (afterOperand : Bool) : Nat → List Char → List Char
  | 0, cs => cs
  | count + 1, cs =>
    match cs.dropWhile isBlank with
    | [] => []
    | c :: rest =>
      match next afterOperand c rest with
      | .token t left => behind t.endsOperand count left
      | _ => []

/-- The text with another one in the place of some of its tokens: of those behind the first `start` the first `count`.
The blanks around the place stay. -/
def splice (start count : Nat) (other cs : List Char) : List Char :=
  let place := (behind false start cs).dropWhile isBlank
  cs.take (cs.length - place.length) ++ other ++ behind false (start + count) cs

/-- The token can stand before a value. -/
def Announces (t : Token) : Prop := t = .punct '=' ∨ t = .word "default"

theorem Announces.ne_array {t : Token} (announces : Announces t) : t ≠ .array := by
  rcases announces with rfl | rfl <;> exact nofun

/-- The text starts with the tokens, with blanks before each of them; `left` is what follows the last of them, and
the second flag is for what is read from there on. -/
inductive Reads : Bool → List Char → List Token → Bool → List Char → Prop where
  | done {afterOperand : Bool} {cs : List Char} : Reads afterOperand cs [] afterOperand cs
  | token {afterOperand afterOperand' : Bool} {blanks cs mid left : List Char} {t : Token} {ts : List Token} :
    (∀ c ∈ blanks, isBlank c = true) → Starts afterOperand cs t mid → Reads t.endsOperand mid ts afterOperand' left →
      Reads afterOperand (blanks ++ cs) (t :: ts) afterOperand' left

variable {afterOperand afterOperand' : Bool} {c k : Char} {cs rest mid left left' blanks other : List Char} {t : Token}
  {ts more : List Token}

/-! ## Readings -/

theorem Starts.ne_nil (starts : Starts afterOperand cs t left) : cs ≠ [] := by
  rintro rfl
  cases starts

theorem dropWhile_blanks (blank : ∀ c ∈ blanks, isBlank c = true) (noBlank : ∀ c ∈ cs.head?, isBlank c = false) :
    (blanks ++ cs).dropWhile isBlank = cs := by
  rw [List.dropWhile_append_of_pos blank]
  cases cs with
  | nil => rfl
  | cons c cs => exact List.dropWhile_cons_of_neg (Bool.eq_false_iff.mp (noBlank c rfl))

theorem Starts.noBlank (starts : Starts afterOperand cs t left) : ∀ c ∈ cs.head?, isBlank c = false := by
  obtain ⟨c, noBlank, first, -⟩ := starts.head
  rintro d here
  rw [first] at here
  cases here
  exact noBlank

theorem Reads.afterBlanks (blank : ∀ c ∈ blanks, isBlank c = true)
    (reads : Reads afterOperand cs (t :: ts) afterOperand' left) :
    Reads afterOperand (blanks ++ cs) (t :: ts) afterOperand' left := by
  cases reads with
  | token blank' starts more =>
    rw [← List.append_assoc]
    exact .token (List.forall_mem_append.mpr ⟨blank, blank'⟩) starts more

/-- The first tokens of a text are read, and then the others. -/
theorem exists_reads (scanned : scan afterOperand cs = .ok (ts ++ more)) :
    ∃ afterOperand' left, Reads afterOperand cs ts afterOperand' left ∧ scan afterOperand' left = .ok more := by
  have steps := scanned_of_scan scanned
  generalize made : ts ++ more = all at steps
  induction steps generalizing ts with
  | nil =>
    obtain ⟨rfl, rfl⟩ := List.append_eq_nil_iff.mp made
    exact ⟨_, _, .done, scanned⟩
  | comment =>
    obtain ⟨rfl, rfl⟩ := List.append_eq_nil_iff.mp made
    exact ⟨_, _, .done, scanned⟩
  | blank isBlank _ ih =>
    cases ts with
    | nil => exact ⟨_, _, .done, scanned⟩
    | cons t ts =>
      rw [scan_blank isBlank] at scanned
      obtain ⟨_, _, reads, others⟩ := ih scanned made
      exact ⟨_, _, @Reads.afterBlanks _ _ _ _ [_] _ _ (List.forall_mem_singleton.mpr isBlank) reads, others⟩
  | token starts _ ih =>
    cases ts with
    | nil => exact ⟨_, _, .done, scanned⟩
    | cons t ts =>
      cases made
      rw [starts.scan_eq] at scanned
      obtain ⟨_, scannedMore, same⟩ := map_eq_ok.mp scanned
      cases same
      obtain ⟨_, _, reads, others⟩ := ih scannedMore rfl
      exact ⟨_, _, @Reads.token _ _ [] _ _ _ _ _ nofun starts reads, others⟩

theorem scan_append (blank : ∀ c ∈ blanks, isBlank c = true) :
    scan afterOperand (blanks ++ cs) = scan afterOperand cs := by
  induction blanks with
  | nil => rfl
  | cons c blanks ih =>
    obtain ⟨here, blank⟩ := List.forall_mem_cons.mp blank
    exact (scan_blank here).trans (ih blank)

theorem Reads.scan_eq (reads : Reads afterOperand cs ts afterOperand' left) :
    scan afterOperand cs = (scan afterOperand' left).map (ts ++ ·) := by
  induction reads with
  | done => cases scan _ _ <;> rfl
  | token blank starts _ ih =>
    rw [scan_append blank, starts.scan_eq, ih]
    cases scan _ _ <;> rfl

theorem Reads.behind_eq (reads : Reads afterOperand cs ts afterOperand' left) :
    behind afterOperand ts.length cs = left := by
  induction reads with
  | done => rfl
  | @token _ _ blanks cs _ _ _ _ blank starts _ ih =>
    obtain ⟨c, rest, rfl⟩ := List.exists_cons_of_ne_nil starts.ne_nil
    rw [List.length_cons, behind, dropWhile_blanks blank starts.noBlank]
    dsimp only
    rw [next_eq_token_iff.mpr starts]
    exact ih

theorem Reads.append (reads : Reads afterOperand cs ts afterOperand' mid) {afterOperand'' : Bool}
    (others : Reads afterOperand' mid more afterOperand'' left) :
    Reads afterOperand cs (ts ++ more) afterOperand'' left := by
  induction reads with
  | done => exact others
  | token blank starts _ ih => exact .token blank starts (ih others)

theorem Reads.of_append (reads : Reads afterOperand cs (ts ++ more) afterOperand' left) :
    ∃ between mid, Reads afterOperand cs ts between mid ∧ Reads between mid more afterOperand' left := by
  induction ts generalizing afterOperand cs with
  | nil => exact ⟨_, _, .done, reads⟩
  | cons t ts ih =>
    cases reads with
    | token blank starts others =>
      obtain ⟨_, _, first, last⟩ := ih others
      exact ⟨_, _, .token blank starts first, last⟩

/-! ## What a token asks of the text behind it -/

/-- Three dots do not come to stand at the end of a word that stopped at a text, if another one with its first
character comes behind it. -/
theorem startsEllipsis_congr {word : List Char} (noDots : startsEllipsis (c :: (word ++ left)) = false)
    (stops : ∀ d ∈ left.head?, isWordChar d = true → startsEllipsis left = true) (head : left'.head? = left.head?) :
    startsEllipsis (c :: (word ++ left')) = false := by
  rw [← Bool.not_eq_true] at noDots ⊢
  intro dots
  -- a dot at the start of the text is the first of three
  have three {more : List Char} (next : left' = '.' :: more) : ∃ more, left = '.' :: '.' :: '.' :: more := by
    rw [next] at head
    exact startsEllipsis_iff.mp (stops '.' head.symm (by decide))
  apply noDots
  obtain ⟨more, same⟩ := startsEllipsis_iff.mp dots
  match word with
  | [] =>
    obtain ⟨rfl, tails⟩ := List.cons.inj same
    obtain ⟨more, rfl⟩ := three tails
    rfl
  | [d] =>
    obtain ⟨rfl, tails⟩ := List.cons.inj same
    obtain ⟨rfl, tails'⟩ := List.cons.inj tails
    obtain ⟨more, rfl⟩ := three tails'
    rfl
  | d :: e :: word =>
    cases same
    rfl

/-- A word is told by its characters, by the next one, and by whether three dots are next. -/
theorem takeWord_congr {decimal : Bool} {last : Char} {word : List Char}
    (taken : takeWord decimal last cs = (word, left)) (head : left'.head? = left.head?)
    (dots : startsEllipsis left = true → startsEllipsis left' = true) :
    takeWord decimal last (word ++ left') = (word, left') := by
  induction cs generalizing decimal last word with
  | nil =>
    cases taken
    rw [List.head?_eq_none_iff.mp head]
    rfl
  | cons d cs ih =>
    by_cases ends : (startsEllipsis (d :: cs) || !continuesWord decimal last d) = true
    · rw [takeWord, if_pos ends] at taken
      cases taken
      obtain ⟨more, rfl⟩ := List.head?_eq_some_iff.mp head
      have ends : (startsEllipsis (d :: more) || !continuesWord decimal last d) = true := by
        rcases Bool.or_eq_true_iff.mp ends with here | other
        · rw [dots here, Bool.true_or]
        · rw [other, Bool.or_true]
      rw [List.nil_append, takeWord, if_pos ends]
    · have stops (e : Char) := @takeWord_stops (d :: cs) decimal last e
      have append := takeWord_append decimal last (d :: cs)
      rw [taken] at stops append
      rw [takeWord, if_neg ends] at taken
      cases taken
      obtain ⟨noDots, continues⟩ := Bool.or_eq_false_iff.mp (Bool.eq_false_iff.mpr ends)
      rw [← append] at noDots
      have noDots' := startsEllipsis_congr noDots stops head
      rw [List.cons_append, takeWord, noDots', continues, Bool.or_self, if_neg Bool.false_ne_true, ih rfl]

/-- **A token is told by its characters and a little of what follows it.** -/
theorem Starts.congr (starts : Starts afterOperand cs t left) (head : left'.head? = left.head?)
    (dots : startsEllipsis left = true → startsEllipsis left' = true)
    (keyword : t = .atSign → String.ofList (left'.takeWhile isWordChar) = "interface" →
      String.ofList (left.takeWhile isWordChar) = "interface")
    (bracket : t = .punct '[' → (left'.dropWhile isBlank).head? = (left.dropWhile isBlank).head?) :
    ∃ c spelling, cs = c :: (spelling ++ left) ∧ Starts afterOperand (c :: (spelling ++ left')) t left' := by
  cases starts with
  | literal closed =>
    obtain ⟨inner, quoted, rfl, rfl⟩ := exists_quoted closed
    refine ⟨'"', inner ++ ['"'], by simp, ?_⟩
    rw [List.append_assoc]
    exact .literal (quoted.closeLiteral_append left')
  | @atInterface rest interface =>
    have word : rest.takeWhile isWordChar = "interface".toList := by rw [← interface, String.toList_ofList]
    have append := List.takeWhile_append_dropWhile (p := isWordChar) (l := rest)
    have letters : ∀ c ∈ "interface".toList, isWordChar c = true := List.all_eq_true.mp (by decide)
    -- the keyword ends where the word ended
    have ends : left'.takeWhile isWordChar = [] ∧ left'.dropWhile isWordChar = left' := by
      cases left' with
      | nil => exact ⟨rfl, rfl⟩
      | cons d more =>
        have noWord : ¬ isWordChar d = true := by
          obtain ⟨others, same⟩ := List.head?_eq_some_iff.mp head.symm
          have other := List.head?_dropWhile_not isWordChar rest
          rw [same] at other
          exact Bool.eq_false_iff.mp other
        exact ⟨List.takeWhile_cons_of_neg noWord, List.dropWhile_cons_of_neg noWord⟩
    refine ⟨'@', "interface".toList, by rw [← word, append], ?_⟩
    have here := @Starts.atInterface afterOperand ("interface".toList ++ left') ?_
    · rw [List.dropWhile_append_of_pos letters, ends.2] at here
      exact here
    · rw [List.takeWhile_append_of_pos letters, ends.1, List.append_nil, String.ofList_toList]
  | atSign noKeyword => exact ⟨'@', [], rfl, .atSign fun interface => noKeyword (keyword rfl interface)⟩
  | @array rest _ closed =>
    have append := List.takeWhile_append_dropWhile (p := isBlank) (l := rest)
    have blanks : ∀ c ∈ rest.takeWhile isBlank, isBlank c = true := fun c mem => List.mem_takeWhile_imp mem
    refine ⟨'[', rest.takeWhile isBlank ++ [']'], ?_, ?_⟩
    · rw [closed] at append
      rw [List.append_assoc, List.singleton_append, append]
    · rw [List.append_assoc]
      exact .array (by rw [List.dropWhile_append_of_pos blanks]; rfl)
  | bracket notClosed => exact ⟨'[', [], rfl, .bracket fun closed => notClosed ((bracket rfl).symm.trans closed)⟩
  | ellipsis => exact ⟨'.', ['.', '.'], rfl, .ellipsis⟩
  | @word c rest noDots first =>
    generalize decimal : (isSign afterOperand c rest || c.isDigit) = number at *
    have append := takeWord_append number c rest
    have stops (d : Char) := @takeWord_stops rest number c d
    obtain ⟨word, left, taken⟩ : ∃ word left, takeWord number c rest = (word, left) := ⟨_, _, rfl⟩
    rw [taken] at append stops head dots ⊢
    rw [← append] at noDots first decimal
    have next : (word ++ left').head? = (word ++ left).head? := by
      cases word with
      | nil => exact head
      | cons => rfl
    have sign : isSign afterOperand c (word ++ left') = isSign afterOperand c (word ++ left) := by
      rw [isSign, isSign, next]
    have here := @Starts.word afterOperand c (word ++ left') (startsEllipsis_congr noDots stops head) (sign ▸ first)
    rw [sign, decimal, takeWord_congr taken head dots] at here
    exact ⟨c, word, by rw [append], here⟩
  | @mark c rest opener noComment noDots noSign noWord =>
    have noComment' : (c = '/' && left'.head? = some '/') = false := by rw [head]; exact noComment
    have noDots' : startsEllipsis (c :: left') = false := by
      rw [← Bool.not_eq_true]
      intro dots'
      obtain ⟨more, same⟩ := startsEllipsis_iff.mp dots'
      rw [(List.cons.inj same).1] at noWord
      exact absurd noWord (by decide)
    have noSign' : isSign afterOperand c left' = false := by rw [isSign, head]; exact noSign
    exact ⟨c, [], rfl, .mark opener noComment' noDots' noSign' noWord⟩

/-! ## Tokens before a value -/

/-- The first characters of the tokens that announce a value. -/
def announcerStarts : List Char := ['=', 'd']

/-- What a token asks of the text behind it does not go past the start of a token that announces a value. -/
theorem Starts.congr_announcer (start : k ∈ announcerStarts) (starts : Starts afterOperand cs t (mid ++ k :: rest))
    (rest' : List Char) :
    ∃ c spelling, cs = c :: (spelling ++ (mid ++ k :: rest)) ∧
      Starts afterOperand (c :: (spelling ++ (mid ++ k :: rest'))) t (mid ++ k :: rest') := by
  have noDot : k ≠ '.' := by rintro rfl; exact absurd start (by decide)
  have noLetter : k ∉ "interface".toList := by
    simp only [announcerStarts, List.mem_cons, List.not_mem_nil, or_false] at start
    rcases start with rfl | rfl <;> decide
  refine starts.congr ?_ ?_ ?_ ?_
  · rw [List.head?_append, List.head?_append]
    rfl
  · intro dots
    obtain ⟨more, same⟩ := startsEllipsis_iff.mp dots
    match mid with
    | [] => exact absurd (List.cons.inj same).1 noDot
    | [_] => exact absurd (List.cons.inj (List.cons.inj same).2).1 noDot
    | [_, _] => exact absurd (List.cons.inj (List.cons.inj (List.cons.inj same).2).2).1 noDot
    | _ :: _ :: _ :: _ =>
      cases same
      rfl
  · rintro - interface
    rw [List.takeWhile_append] at interface ⊢
    split at interface
    next word =>
      have noWord : ¬ isWordChar k = true := by
        intro letter
        apply noLetter
        rw [← interface, List.takeWhile_cons_of_pos letter, String.toList_ofList]
        exact List.mem_append_right _ List.mem_cons_self
      rw [List.takeWhile_cons_of_neg noWord] at interface
      rw [if_pos word, List.takeWhile_cons_of_neg noWord, interface]
    next ends => rw [if_neg ends, interface]
  · rintro -
    have noBlank : ¬ isBlank k = true := by
      simp only [announcerStarts, List.mem_cons, List.not_mem_nil, or_false] at start
      rcases start with rfl | rfl <;> decide
    rw [List.dropWhile_append, List.dropWhile_append, List.dropWhile_cons_of_neg noBlank,
      List.dropWhile_cons_of_neg noBlank]
    split
    · rfl
    next filled =>
      obtain ⟨d, more, same⟩ := List.exists_cons_of_ne_nil (mt List.isEmpty_iff.mpr filled)
      rw [same]
      rfl

/-- So the tokens before it stay if the text changes behind its start. -/
theorem Reads.congr_announcer (start : k ∈ announcerStarts)
    (reads : Reads afterOperand cs ts afterOperand' (mid ++ k :: rest)) :
    ∃ front, cs = front ++ (mid ++ k :: rest) ∧
      ∀ rest', Reads afterOperand (front ++ (mid ++ k :: rest')) ts afterOperand' (mid ++ k :: rest') := by
  generalize made : mid ++ k :: rest = left at reads
  induction reads with
  | done => exact ⟨[], rfl, fun _ => .done⟩
  | @token _ _ blanks cs _ _ t ts blank starts _ ih =>
    obtain ⟨front, rfl, again⟩ := ih made
    rw [← made, ← List.append_assoc] at starts
    obtain ⟨c, spelling, rfl, -⟩ := starts.congr_announcer start rest
    refine ⟨blanks ++ c :: (spelling ++ front), by rw [← made]; simp, fun rest' => ?_⟩
    obtain ⟨c', spelling', same, starts'⟩ := starts.congr_announcer start rest'
    have spelled : c' :: spelling' = c :: spelling := List.append_cancel_right same.symm
    cases spelled
    have here := Reads.token blank starts' (by rw [List.append_assoc]; exact again rest')
    simpa only [List.append_assoc, List.cons_append] using here

/-- What stands before a value and announces it is read before any text that does not go on with it. -/
theorem Reads.announced {before : List Token} (announces : Announces t)
    (reads : Reads afterOperand cs (before ++ [t]) afterOperand' left) :
    ∃ front, cs = front ++ left ∧ ∀ left', left'.head? = left.head? →
      (startsEllipsis left = true → startsEllipsis left' = true) →
        Reads afterOperand (front ++ left') (before ++ [t]) afterOperand' left' := by
  obtain ⟨between, mid, first, last⟩ := reads.of_append
  cases last with
  | @token _ _ blanks cs' _ _ _ _ blank starts done =>
    cases done
    have noSign : t ≠ .atSign ∧ t ≠ .punct '[' := by
      rcases announces with rfl | rfl <;> exact ⟨nofun, nofun⟩
    have start : ∃ k ∈ announcerStarts, t.text.toList.head? = some k := by
      rcases announces with rfl | rfl
      · exact ⟨'=', by decide, by decide⟩
      · exact ⟨'d', by decide, by decide⟩
    obtain ⟨k, mem, isStart⟩ := start
    obtain ⟨d, -, first', isFirst⟩ := starts.head
    rw [isStart] at isFirst
    cases isFirst
    have congr (left' : List Char) (head : left'.head? = left.head?)
        (dots : startsEllipsis left = true → startsEllipsis left' = true) :=
      starts.congr head dots (fun sign => absurd sign noSign.1) (fun bracket => absurd bracket noSign.2)
    obtain ⟨c, spelling, rfl, -⟩ := congr left rfl id
    cases first'
    obtain ⟨front, rfl, again⟩ := first.congr_announcer mem
    refine ⟨front ++ (blanks ++ k :: spelling), by simp, fun left' head dots => ?_⟩
    obtain ⟨c, spelling', same, starts'⟩ := congr left' head dots
    have spelled : c :: spelling' = k :: spelling := List.append_cancel_right same.symm
    cases spelled
    have here := (again (spelling ++ left')).append (.token blank starts' .done)
    simpa only [List.append_assoc, List.cons_append] using here

/-! ## Tokens of a value -/

/-- A token is read where its text stands in place of its characters. -/
theorem Starts.text_append (starts : Starts afterOperand cs t left) :
    Starts afterOperand (t.text.toList ++ left) t left := by
  obtain ⟨spelling, rfl, spelled, -⟩ := starts.exists_spelling
  cases spelled with
  | text => exact starts
  | array => exact .array rfl

/-- The first of some tokens is spelled first. -/
theorem head?_spaced (solid : t.text.toList.head? = some c) (ts : List Token) (after : List Char) :
    ((spaced (t :: ts)).toList ++ after).head? = some c := by
  obtain ⟨more, same⟩ := exists_spaced_cons t ts
  rw [same, List.append_assoc, List.head?_append, solid]
  rfl

/-- Tokens are read where their texts stand, with one space between two of them. -/
theorem Reads.spaced (reads : Reads afterOperand cs (t :: ts) afterOperand' left) :
    Reads afterOperand ((SignatureLint.spaced (t :: ts)).toList ++ left) (t :: ts) afterOperand' left := by
  induction ts generalizing afterOperand cs t with
  | nil =>
    cases reads with
    | token _ starts done =>
      cases done
      exact @Reads.token _ _ [] _ _ _ _ _ nofun starts.text_append .done
  | cons u ts ih =>
    cases reads with
    | @token _ _ _ _ mid _ _ _ _ starts others =>
      have parted : Parted (' ' :: ((SignatureLint.spaced (u :: ts)).toList ++ left)) :=
        fun c first => (Option.some.inj first).symm
      have blank : isBlank ' ' = true := by decide
      have here := starts.parted parted ?_
      · rw [toList_spaced_cons, List.append_assoc, List.cons_append]
        exact @Reads.token _ _ [] _ _ _ _ _ nofun here
          (@Reads.afterBlanks _ _ _ _ [' '] _ _ (List.forall_mem_singleton.mpr blank) (ih others))
      · -- what was next to a bracket is next to it again
        rintro rfl closed
        cases others with
        | token blanks next =>
          obtain ⟨c, noBlank, first, isFirst⟩ := next.head
          obtain ⟨more, same⟩ := List.head?_eq_some_iff.mp (head?_spaced isFirst ts left)
          rw [List.dropWhile_cons_of_pos blank, same,
            List.dropWhile_cons_of_neg (Bool.eq_false_iff.mp noBlank)] at closed
          cases starts with
          | bracket notClosed =>
            rw [dropWhile_blanks blanks next.noBlank, first] at notClosed
            exact notClosed closed
          | mark opener => cases opener

/-! ## Tokens in their place -/

/-- Where a text is put. -/
theorem splice_eq {front : List Char} {before written : List Token} {between : Bool}
    (blank : ∀ c ∈ blanks, isBlank c = true) (noBlank : ∀ c ∈ cs.head?, isBlank c = false)
    (first : Reads false (front ++ (blanks ++ cs)) before between (blanks ++ cs))
    (others : Reads between (blanks ++ cs) written afterOperand' left) (other : List Char) :
    splice before.length written.length other (front ++ (blanks ++ cs)) = front ++ blanks ++ (other ++ left) := by
  have last := (first.append others).behind_eq
  rw [List.length_append] at last
  rw [splice, first.behind_eq, dropWhile_blanks blank noBlank, last, ← List.append_assoc, List.length_append,
    Nat.add_sub_cancel, List.take_left, List.append_assoc]

/-- Tokens stand before what is left, and all their characters do. -/
theorem Reads.exists_front (reads : Reads afterOperand cs ts afterOperand' left) :
    ∃ front, cs = front ++ left ∧ ∀ t ∈ ts, t ≠ .array → t.text.toList ⊆ front := by
  induction reads with
  | done => exact ⟨[], rfl, nofun⟩
  | @token _ _ blanks _ _ _ t ts _ starts _ ih =>
    obtain ⟨front, rfl, chars⟩ := ih
    obtain ⟨spelling, rfl, spelled, -⟩ := starts.exists_spelling
    refine ⟨blanks ++ (spelling ++ front), by simp, fun u mem noArray => ?_⟩
    rcases List.mem_cons.mp mem with rfl | mem
    · cases spelled with
      | text => exact fun c mem => List.mem_append_right _ (List.mem_append_left _ mem)
      | array => exact absurd rfl noArray
    · exact fun c here => List.mem_append_right _ (List.mem_append_right _ (chars u mem noArray here))

/-- Where a token stood, its text goes on with what stood before it just as the token did. -/
theorem Starts.goesOn (starts : Starts afterOperand cs t mid) (blank : ∀ c ∈ blanks, isBlank c = true) (ts : List Token)
    (after : List Char) :
    (blanks ++ ((spaced (t :: ts)).toList ++ after)).head? = (blanks ++ cs).head? ∧
      (startsEllipsis (blanks ++ cs) = true →
        startsEllipsis (blanks ++ ((spaced (t :: ts)).toList ++ after)) = true) := by
  obtain ⟨c, -, first, isFirst⟩ := starts.head
  cases blanks with
  | cons d blanks =>
    refine ⟨rfl, fun dots => ?_⟩
    obtain ⟨more, same⟩ := startsEllipsis_iff.mp dots
    rw [(List.cons.inj same).1] at blank
    exact absurd (blank '.' List.mem_cons_self) (by decide)
  | nil =>
    refine ⟨(head?_spaced isFirst ts after).trans first.symm, fun dots => ?_⟩
    obtain ⟨more, same⟩ := startsEllipsis_iff.mp dots
    cases starts with
    | ellipsis =>
      obtain ⟨more, same⟩ := exists_spaced_cons .ellipsis ts
      rw [same]
      rfl
    | word noDots => exact absurd dots (Bool.eq_false_iff.mp noDots)
    | mark _ _ noDots => exact absurd dots (Bool.eq_false_iff.mp noDots)
    | _ => cases same

/-- Behind a token that announces a value, the place of some tokens is told by the text before it and behind it. With
the spellings of these tokens there, the tokens are read again, and their place is the same. -/
theorem exists_place {before written after : List Token} (announces : Announces t) (filled : written ≠ [])
    (scanned : scan false cs = .ok (before ++ t :: (written ++ after))) :
    ∃ front part left,
      (cs = front ++ (part ++ left) ∧ t.text.toList ⊆ front ∧ (left = [] → after = [])) ∧
      (∀ other, splice (before.length + 1) written.length other cs = front ++ (other ++ left)) ∧
      scan false (front ++ ((spaced written).toList ++ left)) = .ok (before ++ t :: (written ++ after)) ∧
      ∀ other, splice (before.length + 1) written.length other (front ++ ((spaced written).toList ++ left)) =
        front ++ (other ++ left) := by
  have split : before ++ t :: (written ++ after) = before ++ [t] ++ (written ++ after) := by simp
  have length : before.length + 1 = (before ++ [t]).length := by simp
  rw [split] at scanned ⊢
  obtain ⟨between, mid, first, scannedMid⟩ := exists_reads scanned
  obtain ⟨afterOperand', left, others, scannedLeft⟩ := exists_reads scannedMid
  obtain ⟨u, written, rfl⟩ := List.exists_cons_of_ne_nil filled
  obtain ⟨front, rfl, again⟩ := first.announced announces
  obtain ⟨front', same, chars⟩ := first.exists_front
  cases List.append_cancel_right same
  have spelled := others.spaced
  have placed := others
  cases others with
  | @token _ _ blanks cs _ _ _ _ blank starts more =>
    obtain ⟨part, rfl, -⟩ := (@Reads.token _ _ [] _ _ _ _ _ nofun starts more).exists_front
    obtain ⟨head, dots⟩ := starts.goesOn blank written left
    obtain ⟨c, noBlank, -, isFirst⟩ := starts.head
    have respelled := again _ head dots
    have solid : ∀ d ∈ ((spaced (u :: written)).toList ++ left).head?, isBlank d = false := by
      rw [head?_spaced isFirst]
      rintro d ⟨⟩
      exact noBlank
    refine ⟨front ++ blanks, part, left, ⟨by simp, ?_, ?_⟩, fun other => ?_, ?_, fun other => ?_⟩
    · exact fun c mem => List.mem_append_left _ (chars t (by simp) announces.ne_array mem)
    · rintro rfl
      rw [scan_nil] at scannedLeft
      exact (Except.ok.inj scannedLeft).symm
    · rw [length, splice_eq blank starts.noBlank first placed]
    · rw [List.append_assoc, (respelled.append (spelled.afterBlanks blank)).scan_eq, scannedLeft]
      exact congrArg Except.ok (List.append_assoc _ _ _)
    · rw [length, List.append_assoc, splice_eq blank solid respelled (spelled.afterBlanks blank)]

section

variable {before written after : List Token} (announces : Announces t) (filled : written ≠ [])
  (scanned : scan false cs = .ok (before ++ t :: (written ++ after)))

include announces filled scanned

/-- **Tokens behind one that announces a value can be written anew.** Their spellings are put in their place, with one
space between two of them, and the text is cut into the same tokens as before. -/
theorem scan_splice :
    scan false (splice (before.length + 1) written.length (spaced written).toList cs) =
      .ok (before ++ t :: (written ++ after)) := by
  obtain ⟨front, part, left, -, spliced, again, -⟩ := exists_place announces filled scanned
  rw [spliced, again]

/-- Written anew once more, they leave the text as it is. -/
theorem splice_splice :
    splice (before.length + 1) written.length (spaced written).toList
        (splice (before.length + 1) written.length (spaced written).toList cs) =
      splice (before.length + 1) written.length (spaced written).toList cs := by
  obtain ⟨front, part, left, -, spliced, -, again⟩ := exists_place announces filled scanned
  rw [spliced, again]

end

end Token

end SignatureLint
