/-!
# Strings of TOML

The four forms of a string in TOML. A basic string stands in double quotes and knows escapes; a
literal string stands in single quotes and knows none. Either can be written on several lines between
three quotes. There a line feed directly after the opening quotes is dropped, every line end is read
as a line feed, up to two quotes may stand directly before the closing ones, and in a basic string a
backslash at the end of a line takes with it all blanks and line ends up to the next text.

Each reading answers the string and the characters after it, and always takes at least the quotes
(`length_string?`).
-/

namespace SignatureLint.Toml

/-- The blanks inside a line. -/
def isBlank (c : Char) : Bool := c = ' ' || c = '\t'

/-- The characters that strings and comments may hold as they are: all but control characters, with
the tab allowed. -/
def isText (c : Char) : Bool := c = '\t' || (0x20 ≤ c.toNat && c.toNat != 0x7F)

/-- The characters after a line end, if one stands here. -/
def afterLineEnd? : List Char → Option (List Char)
  | '\n' :: rest => some rest
  | '\r' :: '\n' :: rest => some rest
  | _ => none

/-! ## Finding the end -/

/-- The text up to the next quote, and the characters after the quote. -/
def untilQuote (quote : Char) : List Char → Option (List Char × List Char)
  | [] => none
  | c :: rest =>
    if c = quote then some ([], rest)
    else (untilQuote quote rest).map fun (body, rest) => (c :: body, rest)

/-- The text up to the next double quote that no backslash escapes, and the characters after it. -/
def untilFreeQuote : List Char → Option (List Char × List Char)
  | [] => none
  | '"' :: rest => some ([], rest)
  | '\\' :: c :: rest => (untilFreeQuote rest).map fun (body, rest) => ('\\' :: c :: body, rest)
  | c :: rest => (untilFreeQuote rest).map fun (body, rest) => (c :: body, rest)

/-- Up to two quotes that stand here belong to the text. -/
def quotesBeforeEnd (quote : Char) : List Char → List Char × List Char
  | c :: d :: rest =>
    if c = quote then if d = quote then ([c, d], rest) else ([c], d :: rest) else ([], c :: d :: rest)
  | [c] => if c = quote then ([c], []) else ([], [c])
  | [] => ([], [])

/-- The text up to the next three quotes, and the characters after them. With `escapes` a backslash
takes the character after it into the text. -/
def untilThreeQuotes (escapes : Bool) (quote : Char) : List Char → Option (List Char × List Char)
  | [] => none
  | [_] => none
  | c :: d :: rest =>
    if escapes && c = '\\' then
      (untilThreeQuotes escapes quote rest).map fun (body, rest) => (c :: d :: body, rest)
    else if c = quote && d = quote && rest.head? = some quote then some (quotesBeforeEnd quote rest.tail)
    else (untilThreeQuotes escapes quote (d :: rest)).map fun (body, rest) => (c :: body, rest)

/-! ## Reading the text -/

/-- The value of a hexadecimal digit. -/
def hexValue? (c : Char) : Option Nat :=
  if c.isDigit then some (c.toNat - '0'.toNat)
  else if 'a' ≤ c ∧ c ≤ 'f' then some (c.toNat - 'a'.toNat + 10)
  else if 'A' ≤ c ∧ c ≤ 'F' then some (c.toNat - 'A'.toNat + 10)
  else none

/-- The character whose code point has these hexadecimal digits. -/
def charOfHex? (digits : List Char) : Option Char := do
  let values ← digits.mapM hexValue?
  let code := values.foldl (fun code value => 16 * code + value) 0
  if code.isValidChar then some (Char.ofNat code) else none

/-- The character that a backslash and one letter stand for. -/
def simpleEscape? : Char → Option Char
  | 'b' => some '\x08'
  | 't' => some '\t'
  | 'n' => some '\n'
  | 'f' => some '\x0c'
  | 'r' => some '\r'
  | '"' => some '"'
  | '\\' => some '\\'
  | _ => none

/-- Drops blanks and line ends. -/
def skipBlankLines : List Char → List Char
  | '\r' :: '\n' :: rest => skipBlankLines rest
  | c :: rest => if isBlank c || c = '\n' then skipBlankLines rest else c :: rest
  | [] => []

theorem length_skipBlankLines (cs : List Char) : (skipBlankLines cs).length ≤ cs.length := by
  fun_induction skipBlankLines cs with
  | case1 _ ih => simp only [List.length_cons]; omega
  | case2 _ _ _ _ ih => simp only [List.length_cons]; omega
  | case3 => exact Nat.le_refl _
  | case4 => exact Nat.le_refl _

/-- What follows a backslash that ends its line. -/
def afterContinuation? (cs : List Char) : Option (List Char) :=
  (afterLineEnd? (cs.dropWhile isBlank)).map skipBlankLines

theorem length_afterLineEnd? {cs rest : List Char} (ended : afterLineEnd? cs = some rest) :
    rest.length < cs.length := by
  unfold afterLineEnd? at ended
  split at ended
  · cases ended
    exact Nat.lt_succ_self _
  · cases ended
    exact Nat.lt_succ_of_lt (Nat.lt_succ_self _)
  · cases ended

theorem length_afterContinuation? {cs rest : List Char} (continued : afterContinuation? cs = some rest) :
    rest.length < cs.length := by
  obtain ⟨left, ended, rfl⟩ := Option.map_eq_some_iff.mp continued
  have := length_afterLineEnd? ended
  have := length_skipBlankLines left
  have := (List.dropWhile_sublist isBlank (l := cs)).length_le
  omega

/-- What the characters after a backslash stand for, and the characters after them. -/
def escape? (manyLines : Bool) (cs : List Char) : Option (List Char × List Char) :=
  match cs with
  | 'u' :: a :: b :: c :: d :: rest => (charOfHex? [a, b, c, d]).map fun x => ([x], rest)
  | 'U' :: a :: b :: c :: d :: e :: f :: g :: h :: rest =>
    (charOfHex? [a, b, c, d, e, f, g, h]).map fun x => ([x], rest)
  | c :: rest =>
    match simpleEscape? c with
    | some x => some ([x], rest)
    | none => if manyLines then (afterContinuation? (c :: rest)).map fun rest => ([], rest) else none
  | [] => none

theorem length_escape? {manyLines : Bool} {cs text rest : List Char}
    (read : escape? manyLines cs = some (text, rest)) : rest.length < cs.length := by
  unfold escape? at read
  split at read
  · obtain ⟨_, _, same⟩ := Option.map_eq_some_iff.mp read
    cases same
    simp only [List.length_cons]; omega
  · obtain ⟨_, _, same⟩ := Option.map_eq_some_iff.mp read
    cases same
    simp only [List.length_cons]; omega
  · split at read
    · cases read; simp
    · split at read
      · obtain ⟨_, continued, same⟩ := Option.map_eq_some_iff.mp read
        cases same
        exact length_afterContinuation? continued
      · cases read
  · cases read

/-- The string that the text of a basic string stands for. -/
def unescape (manyLines : Bool) (cs : List Char) : Option (List Char) :=
  match cs with
  | [] => some []
  | c :: rest =>
    if c = '\\' then
      match _escaped : escape? manyLines rest with
      | some (text, rest) => (unescape manyLines rest).map (text ++ ·)
      | none => none
    else if isText c then (unescape manyLines rest).map (c :: ·)
    else
      match _ended : afterLineEnd? (c :: rest) with
      | some rest => if manyLines then (unescape manyLines rest).map ('\n' :: ·) else none
      | none => none
termination_by cs.length
decreasing_by
  · have := length_escape? _escaped
    simp only [List.length_cons]; omega
  · simp
  · exact length_afterLineEnd? _ended

/-- The string that the text of a literal string on several lines stands for. -/
def unfold (cs : List Char) : Option (List Char) :=
  match cs with
  | [] => some []
  | '\r' :: '\n' :: rest => (unfold rest).map ('\n' :: ·)
  | c :: rest => if isText c || c = '\n' then (unfold rest).map (c :: ·) else none

/-! ## Strings -/

/-- The characters without a line end that they start with. -/
def dropLineEnd (cs : List Char) : List Char := (afterLineEnd? cs).getD cs

/-- A basic or a literal string on one line. -/
def lineString? : List Char → Option (String × List Char)
  | '"' :: rest => do
    let (body, rest) ← untilFreeQuote rest
    return (String.ofList (← unescape false body), rest)
  | '\'' :: rest => do
    let (body, rest) ← untilQuote '\'' rest
    if body.all isText then some (String.ofList body, rest) else none
  | _ => none

/-- A string in any of the four forms. -/
def string? (cs : List Char) : Option (String × List Char) :=
  match cs with
  | '"' :: '"' :: '"' :: rest => do
    let (body, rest) ← untilThreeQuotes true '"' (dropLineEnd rest)
    return (String.ofList (← unescape true body), rest)
  | '\'' :: '\'' :: '\'' :: rest => do
    let (body, rest) ← untilThreeQuotes false '\'' (dropLineEnd rest)
    return (String.ofList (← unfold body), rest)
  | _ => lineString? cs

/-! ## What a string leaves -/

theorem length_untilQuote {quote : Char} {cs body rest : List Char}
    (read : untilQuote quote cs = some (body, rest)) : rest.length < cs.length := by
  induction cs generalizing body with
  | nil => cases read
  | cons c cs ih =>
    unfold untilQuote at read
    split at read
    · cases read; simp
    · obtain ⟨⟨b, r⟩, inner, same⟩ := Option.map_eq_some_iff.mp read
      cases same
      have := ih inner
      simp only [List.length_cons]; omega

theorem length_untilFreeQuote {cs body rest : List Char} (read : untilFreeQuote cs = some (body, rest)) :
    rest.length < cs.length := by
  fun_induction untilFreeQuote cs generalizing body with
  | case1 => cases read
  | case2 => cases read; simp
  | case3 _ _ ih =>
    obtain ⟨⟨b, r⟩, inner, same⟩ := Option.map_eq_some_iff.mp read
    cases same
    have := ih inner
    simp only [List.length_cons]; omega
  | case4 _ _ _ _ ih =>
    obtain ⟨⟨b, r⟩, inner, same⟩ := Option.map_eq_some_iff.mp read
    cases same
    have := ih inner
    simp only [List.length_cons]; omega

theorem length_quotesBeforeEnd (quote : Char) (cs : List Char) : (quotesBeforeEnd quote cs).2.length ≤ cs.length := by
  unfold quotesBeforeEnd
  split
  · split
    · split
      · exact Nat.le_trans (Nat.le_succ _) (Nat.le_succ _)
      · exact Nat.le_succ _
    · exact Nat.le_refl _
  · split
    · exact Nat.zero_le _
    · exact Nat.le_refl _
  · exact Nat.le_refl _

theorem length_untilThreeQuotes {escapes : Bool} {quote : Char} {cs body rest : List Char}
    (read : untilThreeQuotes escapes quote cs = some (body, rest)) : rest.length < cs.length := by
  fun_induction untilThreeQuotes escapes quote cs generalizing body with
  | case1 => cases read
  | case2 => cases read
  | case3 _ _ _ _ ih =>
    obtain ⟨⟨b, r⟩, inner, same⟩ := Option.map_eq_some_iff.mp read
    cases same
    have := ih inner
    simp only [List.length_cons]; omega
  | case4 c d left _ _ =>
    have := length_quotesBeforeEnd quote left.tail
    rw [Option.some.inj read] at this
    simp only [List.length_tail] at this
    simp only [List.length_cons]; omega
  | case5 _ _ _ _ _ ih =>
    obtain ⟨⟨b, r⟩, inner, same⟩ := Option.map_eq_some_iff.mp read
    cases same
    have := ih inner
    simp only [List.length_cons] at *; omega

theorem length_dropLineEnd (cs : List Char) : (dropLineEnd cs).length ≤ cs.length := by
  unfold dropLineEnd
  cases ended : afterLineEnd? cs with
  | none => exact Nat.le_refl _
  | some rest => exact Nat.le_of_lt (length_afterLineEnd? ended)

theorem length_lineString? {cs rest : List Char} {text : String} (read : lineString? cs = some (text, rest)) :
    rest.length < cs.length := by
  unfold lineString? at read
  split at read
  next left =>
    obtain ⟨⟨body, left'⟩, closed, read⟩ := Option.bind_eq_some_iff.mp read
    obtain ⟨_, _, read⟩ := Option.bind_eq_some_iff.mp read
    cases read
    have := length_untilFreeQuote closed
    simp only [List.length_cons]; omega
  next left =>
    obtain ⟨⟨body, left'⟩, closed, read⟩ := Option.bind_eq_some_iff.mp read
    dsimp only at read
    split at read <;> cases read
    have := length_untilQuote closed
    simp only [List.length_cons]; omega
  · cases read

theorem length_string? {cs rest : List Char} {text : String} (read : string? cs = some (text, rest)) :
    rest.length < cs.length := by
  unfold string? at read
  split at read
  next left =>
    obtain ⟨⟨body, left'⟩, closed, read⟩ := Option.bind_eq_some_iff.mp read
    obtain ⟨_, _, read⟩ := Option.bind_eq_some_iff.mp read
    cases read
    have := length_untilThreeQuotes closed
    have := length_dropLineEnd left
    simp only [List.length_cons]; omega
  next left =>
    obtain ⟨⟨body, left'⟩, closed, read⟩ := Option.bind_eq_some_iff.mp read
    obtain ⟨_, _, read⟩ := Option.bind_eq_some_iff.mp read
    cases read
    have := length_untilThreeQuotes closed
    have := length_dropLineEnd left
    simp only [List.length_cons]; omega
  · exact length_lineString? read

end SignatureLint.Toml
