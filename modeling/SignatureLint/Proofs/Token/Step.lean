import SignatureLint.Token.Lexer

/-!
# What a text starts with

`Token.Starts` lists the tokens that a text can start with, each with the text after it; a step of the lexer
finds just these (`next_eq_token_iff`). The kinds are told apart by the first characters: no character of a
word is a blank (`isBlank_of_isWordChar`) or a mark of its own.

A word holds the characters of words and the signs of numbers, and nothing else (`Starts.isSpelled`).
-/

namespace SignatureLint

theorem map_eq_ok {ε α β : Type} {f : α → β} {x : Except ε α} {b : β} : x.map f = .ok b ↔ ∃ a, x = .ok a ∧ f a = b := by
  cases x <;> simp [Except.map]

theorem mapError_eq_ok {ε ε' α : Type} {f : ε → ε'} {x : Except ε α} {a : α} : x.mapError f = .ok a ↔ x = .ok a := by
  cases x with
  | error e => exact ⟨nofun, nofun⟩
  | ok b =>
    constructor
    · rintro ⟨⟩
      rfl
    · rintro ⟨⟩
      rfl

namespace Text

/-- No character lies in two lists of ranges of which no range meets one of the other. -/
theorem inRanges_eq_false {ranges others : List (Nat × Nat)} {c : Char}
    (apart : ∀ a ∈ ranges, ∀ b ∈ others, a.2 < b.1 ∨ b.2 < a.1) (here : inRanges ranges c = true) :
    inRanges others c = false := by
  rw [← Bool.not_eq_true]
  intro there
  obtain ⟨a, memA, _, _⟩ := inRanges_iff.mp here
  obtain ⟨b, memB, _, _⟩ := inRanges_iff.mp there
  have := apart a memA b memB
  omega

theorem alphanumericRanges_apart : ∀ a ∈ alphanumericRanges, ∀ b ∈ blankRanges, a.2 < b.1 ∨ b.2 < a.1 := by
  decide +kernel

theorem isBlank_of_isAlphanumeric {c : Char} (letter : isAlphanumeric c = true) : isBlank c = false := by
  by_cases small : c.toNat < 0x80
  · have ascii : ∀ n < 0x80, (Char.ofNat n).isAlphanum = true → isBlank (Char.ofNat n) = false := by decide +kernel
    rw [isAlphanumeric_ascii small] at letter
    rw [← c.ofNat_toNat] at letter ⊢
    exact ascii c.toNat small letter
  · rw [isAlphanumeric, if_neg small] at letter
    exact inRanges_eq_false alphanumericRanges_apart letter

end Text

namespace Token

open Text

/-! ## Characters of words -/

theorem isBlank_of_isWordChar {c : Char} (word : isWordChar c = true) : isBlank c = false := by
  simp only [isWordChar, Bool.or_eq_true, decide_eq_true_eq] at word
  rcases word with ((letter | rfl) | rfl) | rfl
  · exact isBlank_of_isAlphanumeric letter
  · decide
  · decide
  · decide

theorem isWordChar_of_isDigit {c : Char} (digit : c.isDigit = true) : isWordChar c = true := by
  have small : c.toNat < 0x80 := by
    have := (Bool.and_eq_true_iff.mp digit).2
    exact Nat.lt_of_le_of_lt (UInt32.le_iff_toNat_le.mp (of_decide_eq_true this)) (by decide)
  rw [isWordChar, isAlphanumeric_ascii small, Char.isAlphanum, digit, Bool.or_true]
  rfl

/-- The characters that a word can hold: those of words, and the signs of numbers. -/
def isSpelling (c : Char) : Bool := isWordChar c || c = '-' || c = '+'

theorem isBlank_of_isSpelling {c : Char} (spelled : isSpelling c = true) : isBlank c = false := by
  simp only [isSpelling, Bool.or_eq_true, decide_eq_true_eq] at spelled
  rcases spelled with (word | rfl) | rfl
  · exact isBlank_of_isWordChar word
  · decide
  · decide

theorem ne_of_isSpelling {c d : Char} (spelled : isSpelling c = true) (other : isSpelling d = false) : c ≠ d := by
  rintro rfl
  rw [spelled] at other
  cases other

/-! ## Steps -/

/-- Whether the text `c :: rest` starts with the minus of a number. -/
def isSign (afterOperand : Bool) (c : Char) (rest : List Char) : Bool :=
  c = '-' && rest.head?.any Char.isDigit && !afterOperand

/-- The characters that no word and no plain mark starts with. -/
def isOpener (c : Char) : Bool := isBlank c || c = '"' || c = '@' || c = '['

/-- The text starts with the token, and `left` is what follows it. -/
inductive Starts (afterOperand : Bool) : List Char → Token → List Char → Prop where
  | literal {body rest left : List Char} :
    closeLiteral rest = some (body, left) →
      Starts afterOperand ('"' :: rest) (.literal (String.ofList ('"' :: body))) left
  | atInterface {rest : List Char} :
    String.ofList (rest.takeWhile isWordChar) = "interface" →
      Starts afterOperand ('@' :: rest) .atInterface (rest.dropWhile isWordChar)
  | atSign {rest : List Char} :
    String.ofList (rest.takeWhile isWordChar) ≠ "interface" → Starts afterOperand ('@' :: rest) .atSign rest
  | array {rest left : List Char} :
    rest.dropWhile isBlank = ']' :: left → Starts afterOperand ('[' :: rest) .array left
  | bracket {rest : List Char} :
    (rest.dropWhile isBlank).head? ≠ some ']' → Starts afterOperand ('[' :: rest) (.punct '[') rest
  | ellipsis {rest : List Char} : Starts afterOperand ('.' :: '.' :: '.' :: rest) .ellipsis rest
  | word {c : Char} {rest : List Char} :
    startsEllipsis (c :: rest) = false → (isSign afterOperand c rest || isWordChar c) = true →
      Starts afterOperand (c :: rest)
        (.word (String.ofList (c :: (takeWord (isSign afterOperand c rest || c.isDigit) c rest).1)))
        (takeWord (isSign afterOperand c rest || c.isDigit) c rest).2
  | mark {c : Char} {rest : List Char} :
    isOpener c = false → (c = '/' && rest.head? = some '/') = false → startsEllipsis (c :: rest) = false →
      isSign afterOperand c rest = false → isWordChar c = false → Starts afterOperand (c :: rest) (.punct c) rest

variable {afterOperand : Bool} {c : Char} {rest left : List Char} {t : Token}

theorem isSpelling_of_first (first : (isSign afterOperand c rest || isWordChar c) = true) : isSpelling c = true := by
  rcases Bool.or_eq_true_iff.mp first with sign | word
  · have minus : c = '-' := of_decide_eq_true (Bool.and_eq_true_iff.mp (Bool.and_eq_true_iff.mp sign).1).1
    rw [minus]
    decide
  · rw [isSpelling, word]
    rfl

/-- What starts a word is no blank and no mark of its own. -/
theorem isOpener_of_first (first : (isSign afterOperand c rest || isWordChar c) = true) :
    isOpener c = false ∧ (c = '/' && rest.head? = some '/') = false := by
  have spelled := isSpelling_of_first first
  have differs {d : Char} (other : isSpelling d = false) : decide (c = d) = false :=
    decide_eq_false (ne_of_isSpelling spelled other)
  rw [isOpener, isBlank_of_isSpelling spelled, differs (d := '"') (by decide), differs (d := '@') (by decide),
    differs (d := '[') (by decide), differs (d := '/') (by decide)]
  exact ⟨rfl, rfl⟩

/-- Three dots stand here. -/
theorem startsEllipsis_iff {cs : List Char} : startsEllipsis cs = true ↔ ∃ left, cs = '.' :: '.' :: '.' :: left := by
  unfold startsEllipsis
  split
  next left => exact ⟨fun _ => ⟨left, rfl⟩, fun _ => rfl⟩
  next other =>
    refine ⟨fun starts => absurd starts Bool.false_ne_true, ?_⟩
    rintro ⟨left, rfl⟩
    exact absurd rfl (other left)

/-- **A step of the lexer** finds what the text starts with. -/
theorem next_eq_token_iff : next afterOperand c rest = .token t left ↔ Starts afterOperand (c :: rest) t left := by
  constructor
  · intro found
    unfold next at found
    simp only at found
    split at found
    · cases found
    next noBlank =>
    split at found
    · cases found
    next noComment =>
    split at found
    next quote =>
      subst quote
      split at found
      next body after closed =>
        cases found
        exact .literal closed
      · cases found
    next noQuote =>
    split at found
    next mark =>
      subst mark
      split at found
      next keyword =>
        cases found
        exact .atInterface keyword
      next noKeyword =>
        cases found
        exact .atSign noKeyword
    next noAt =>
    split at found
    next bracket =>
      subst bracket
      split at found
      next after closed =>
        cases found
        exact .array closed
      next open_ =>
        cases found
        refine .bracket ?_
        intro closed
        obtain ⟨after, same⟩ := List.head?_eq_some_iff.mp closed
        exact open_ after same
    next noBracket =>
    split at found
    next dots =>
      obtain ⟨after, same⟩ := startsEllipsis_iff.mp dots
      cases same
      cases found
      exact .ellipsis
    next noDots =>
    split at found
    next first =>
      cases found
      exact .word (Bool.eq_false_iff.mpr noDots) first
    next noWord =>
      cases found
      obtain ⟨noSign, noWord⟩ := Bool.or_eq_false_iff.mp (Bool.eq_false_iff.mpr noWord)
      refine .mark ?_ (Bool.eq_false_iff.mpr noComment) (Bool.eq_false_iff.mpr noDots) noSign noWord
      simp [isOpener, noBlank, noQuote, noAt, noBracket]
  · intro starts
    cases starts with
    | literal closed => simp [next, closed, show isBlank '"' = false by decide]
    | atInterface keyword => simp [next, keyword, show isBlank '@' = false by decide]
    | atSign noKeyword => simp [next, noKeyword, show isBlank '@' = false by decide]
    | array closed => simp [next, closed, show isBlank '[' = false by decide]
    | bracket notClosed =>
      simp only [next, show isBlank '[' = false by decide]
      cases dropped : rest.dropWhile isBlank with
      | nil => simp
      | cons d after =>
        rw [dropped] at notClosed
        have differs : d ≠ ']' := fun same => notClosed (by rw [same]; rfl)
        simp [differs]
    | ellipsis => simp [next, startsEllipsis, show isBlank '.' = false by decide]
    | word noDots first =>
      obtain ⟨opener, noComment⟩ := isOpener_of_first first
      simp only [isOpener, Bool.or_eq_false_iff] at opener
      obtain ⟨⟨⟨noBlank, noQuote⟩, noAt⟩, noBracket⟩ := opener
      unfold isSign at first
      simp only [next, noBlank, noComment, of_decide_eq_false noQuote, of_decide_eq_false noAt,
        of_decide_eq_false noBracket, noDots, first, Bool.false_eq_true, if_false, if_true]
      rfl
    | mark opener noComment noDots noSign noWord =>
      simp only [isOpener, Bool.or_eq_false_iff] at opener
      obtain ⟨⟨⟨noBlank, noQuote⟩, noAt⟩, noBracket⟩ := opener
      unfold isSign at noSign
      simp only [next, noBlank, noComment, of_decide_eq_false noQuote, of_decide_eq_false noAt,
        of_decide_eq_false noBracket, noDots, noSign, noWord, Bool.or_self, Bool.false_eq_true, if_false]

/-! ## Spellings -/

theorem isSpelling_takeWord {decimal : Bool} {last d : Char} {cs : List Char}
    (mem : d ∈ (takeWord decimal last cs).1) : isSpelling d = true := by
  induction cs generalizing decimal last with
  | nil => cases mem
  | cons e cs ih =>
    rw [takeWord] at mem
    split at mem
    · cases mem
    next stays =>
      rcases List.mem_cons.mp mem with rfl | mem
      · simp only [Bool.or_eq_true, Bool.not_eq_true', not_or, Bool.not_eq_false] at stays
        have continues := stays.2
        simp only [continuesWord, Bool.or_eq_true, Bool.and_eq_true] at continues
        rcases continues with word | ⟨⟨-, sign⟩, -⟩
        · simp [isSpelling, word]
        · simp only [decide_eq_true_eq] at sign
          rcases sign with rfl | rfl <;> decide
      · exact ih mem

/-- The text of a word holds nothing but characters of words and signs. -/
def IsSpelled (text : String) : Prop := ∀ c ∈ text.toList, isSpelling c = true

theorem Starts.isSpelled {cs : List Char} {text : String} (starts : Starts afterOperand cs (.word text) left) :
    IsSpelled text := by
  cases starts with
  | word noDots first =>
    intro d mem
    rw [String.toList_ofList] at mem
    rcases List.mem_cons.mp mem with rfl | mem
    · exact isSpelling_of_first first
    · exact isSpelling_takeWord mem

/-! ## Runs -/

theorem scan_nil : scan afterOperand [] = .ok [] := by rw [scan]

theorem scan_cons :
    scan afterOperand (c :: rest) =
      match next afterOperand c rest with
      | .comment => .ok []
      | .unterminated => .error (c :: rest)
      | .blank left => scan afterOperand left
      | .token token left => (scan token.endsOperand left).map (token :: ·) := by
  rw [scan]
  split <;> simp only [*]

theorem scan_blank (blank : isBlank c = true) : scan afterOperand (c :: rest) = scan afterOperand rest := by
  rw [scan_cons, next]
  simp only [blank, if_true]

theorem Starts.scan_eq {cs : List Char} (starts : Starts afterOperand cs t left) :
    scan afterOperand cs = (scan t.endsOperand left).map (t :: ·) := by
  cases cs with
  | nil => cases starts
  | cons c rest => rw [scan_cons, next_eq_token_iff.mpr starts]

/-- The tokens of a text, step by step. -/
inductive Scanned : Bool → List Char → List Token → Prop where
  | nil {afterOperand : Bool} : Scanned afterOperand [] []
  | comment {afterOperand : Bool} {rest : List Char} : Scanned afterOperand ('/' :: '/' :: rest) []
  | blank {afterOperand : Bool} {c : Char} {rest : List Char} {ts : List Token} :
    isBlank c = true → Scanned afterOperand rest ts → Scanned afterOperand (c :: rest) ts
  | token {afterOperand : Bool} {cs left : List Char} {t : Token} {ts : List Token} :
    Starts afterOperand cs t left → Scanned t.endsOperand left ts → Scanned afterOperand cs (t :: ts)

theorem next_eq_blank (found : next afterOperand c rest = .blank left) : isBlank c = true ∧ left = rest := by
  unfold next at found
  simp only at found
  repeat' split at found
  all_goals cases found
  exact ⟨‹_›, rfl⟩

theorem next_eq_comment (found : next afterOperand c rest = .comment) : ∃ left, c :: rest = '/' :: '/' :: left := by
  unfold next at found
  simp only at found
  repeat' split at found
  all_goals cases found
  next slashes =>
    simp only [Bool.and_eq_true, decide_eq_true_eq] at slashes
    obtain ⟨left, same⟩ := List.head?_eq_some_iff.mp slashes.2
    exact ⟨left, by rw [slashes.1, same]⟩

theorem scanned_of_scan {cs : List Char} {ts : List Token} (scanned : scan afterOperand cs = .ok ts) :
    Scanned afterOperand cs ts := by
  fun_induction scan afterOperand cs generalizing ts with
  | case1 =>
    cases scanned
    exact .nil
  | case2 afterOperand c rest comment =>
    cases scanned
    obtain ⟨left, same⟩ := next_eq_comment comment
    rw [same]
    exact .comment
  | case3 => cases scanned
  | case4 afterOperand c rest left blank ih =>
    obtain ⟨isBlank, rfl⟩ := next_eq_blank blank
    exact .blank isBlank (ih scanned)
  | case5 afterOperand c rest t left token ih =>
    obtain ⟨more, scannedMore, rfl⟩ := map_eq_ok.mp scanned
    exact .token (next_eq_token_iff.mp token) (ih scannedMore)

/-- The words of a text are spelled as words are. -/
theorem Scanned.isSpelled {cs : List Char} {ts : List Token} (scanned : Scanned afterOperand cs ts) {text : String}
    (mem : .word text ∈ ts) : IsSpelled text := by
  induction scanned with
  | nil => cases mem
  | comment => cases mem
  | blank _ _ ih => exact ih mem
  | token starts _ ih =>
    rcases List.mem_cons.mp mem with rfl | mem
    · exact starts.isSpelled
    · exact ih mem

end Token

/-- The words of a line are spelled as words are. -/
theorem isSpelled_of_tokenize {line : List Char} {ts : List Token} (scanned : tokenize line = .ok ts) {text : String}
    (mem : .word text ∈ ts) : Token.IsSpelled text :=
  (Token.scanned_of_scan (mapError_eq_ok.mp scanned)).isSpelled mem

end SignatureLint
