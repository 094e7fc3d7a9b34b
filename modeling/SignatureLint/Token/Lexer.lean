import SignatureLint.Text.Alphanumeric
import SignatureLint.Text.Blank
import SignatureLint.Token.Basic

/-!
# Cutting a line into tokens

`tokenize` reads a line from left to right. Blanks separate tokens and two slashes end the line. A
literal runs to the next quote that no backslash escapes. A word is as long as it can be: it stops
before three dots, and a number may hold a sign directly after its exponent mark. A minus directly
before a digit belongs to the number, unless the token before it could end a value.

`next` decides one step and always leaves less than it was given (`Next.Shrinks`); `scan` repeats it.
The only failure is a literal without its closing quote; it is reported by the column of its opening
quote, counted in characters from 0.
-/

namespace SignatureLint

/-- Why a line has no tokens. -/
inductive LexError where
  /-- The literal that starts at this column has no closing quote. -/
  | unterminatedLiteral (column : Nat)
deriving DecidableEq, Repr

namespace LexError

def message : LexError → String
  | .unterminatedLiteral column => "unterminated string literal starting at column " ++ toString column

end LexError

namespace Token

/-- The characters of words. -/
def isWordChar (c : Char) : Bool := Text.isAlphanumeric c || c = '_' || c = '$' || c = '.'

/-- The rest of a literal up to its closing quote, that quote included, and what follows it. A
backslash takes the character after it into the literal, whatever it is. -/
def closeLiteral : List Char → Option (List Char × List Char)
  | [] => none
  | '"' :: rest => some (['"'], rest)
  | '\\' :: c :: rest => (closeLiteral rest).map fun (body, rest) => ('\\' :: c :: body, rest)
  | c :: rest => (closeLiteral rest).map fun (body, rest) => (c :: body, rest)

/-- Whether three dots stand here. -/
def startsEllipsis : List Char → Bool
  | '.' :: '.' :: '.' :: _ => true
  | _ => false

/-- Whether a character continues a word that ends in `last`: a word character, or a sign after the
exponent mark of a decimal number. -/
def continuesWord (decimal : Bool) (last c : Char) : Bool :=
  isWordChar c || (decimal && (c = '-' || c = '+') && (last = 'e' || last = 'E'))

/-- The rest of a word, and what follows it. `decimal` says that the word so far is a number with no
`x` in it, `last` is its last character. -/
def takeWord (decimal : Bool) (last : Char) : List Char → List Char × List Char
  | [] => ([], [])
  | c :: rest =>
    if startsEllipsis (c :: rest) || !continuesWord decimal last c then ([], c :: rest)
    else
      let (more, rest) := takeWord (decimal && c != 'x' && c != 'X') c rest
      (c :: more, rest)

/-- What stands at the start of a line's rest. -/
inductive Next where
  /-- A blank. -/
  | blank (rest : List Char)
  /-- The comment that ends the line. -/
  | comment
  /-- A token. -/
  | token (token : Token) (rest : List Char)
  /-- A literal without its closing quote. -/
  | unterminated

/-- What stands at the start of `c :: rest`; `afterOperand` says whether the token before it could
end a value. -/
def next (afterOperand : Bool) (c : Char) (rest : List Char) : Next :=
  let signed := c = '-' && rest.head?.any Char.isDigit && !afterOperand
  if Text.isBlank c then .blank rest
  else if c = '/' && rest.head? = some '/' then .comment
  else if c = '"' then
    match closeLiteral rest with
    | some (body, rest) => .token (.literal (String.ofList ('"' :: body))) rest
    | none => .unterminated
  else if c = '@' then
    if String.ofList (rest.takeWhile isWordChar) = "interface" then
      .token .atInterface (rest.dropWhile isWordChar)
    else .token .atSign rest
  else if c = '[' then
    match rest.dropWhile Text.isBlank with
    | ']' :: rest => .token .array rest
    | _ => .token (.punct '[') rest
  else if startsEllipsis (c :: rest) then .token .ellipsis (rest.drop 2)
  else if signed || isWordChar c then
    let (more, rest) := takeWord (signed || c.isDigit) c rest
    .token (.word (String.ofList (c :: more))) rest
  else .token (.punct c) rest

/-- What a step leaves is no longer than `rest`. -/
def Next.Shrinks (rest : List Char) : Next → Prop
  | .blank left => left.length ≤ rest.length
  | .token _ left => left.length ≤ rest.length
  | _ => True

theorem length_closeLiteral {cs body rest : List Char} (closed : closeLiteral cs = some (body, rest)) :
    body.length + rest.length = cs.length := by
  fun_induction closeLiteral cs generalizing body with
  | case1 => cases closed
  | case2 left => cases closed; simp; omega
  | case3 c left ih =>
    obtain ⟨⟨b, r⟩, inner, same⟩ := Option.map_eq_some_iff.mp closed
    cases same
    have := ih inner
    simp at this ⊢; omega
  | case4 c left _ _ ih =>
    obtain ⟨⟨b, r⟩, inner, same⟩ := Option.map_eq_some_iff.mp closed
    cases same
    have := ih inner
    simp at this ⊢; omega

theorem takeWord_append (decimal : Bool) (last : Char) (cs : List Char) :
    (takeWord decimal last cs).1 ++ (takeWord decimal last cs).2 = cs := by
  induction cs generalizing decimal last with
  | nil => rfl
  | cons c rest ih =>
    rw [takeWord]
    split
    · rfl
    · simpa using ih _ c

theorem length_dropWhile_le (p : Char → Bool) (cs : List Char) : (cs.dropWhile p).length ≤ cs.length :=
  (List.dropWhile_sublist p).length_le

theorem next_shrinks (afterOperand : Bool) (c : Char) (rest : List Char) :
    (next afterOperand c rest).Shrinks rest := by
  have words := congrArg List.length
    (takeWord_append ((c = '-' && rest.head?.any Char.isDigit && !afterOperand) || c.isDigit) c rest)
  have blanks := length_dropWhile_le Text.isBlank rest
  simp only [List.length_append] at words
  unfold next
  simp only
  split
  · exact Nat.le_refl _
  split
  · trivial
  split
  · split
    next body left closed =>
      have := length_closeLiteral closed
      simp only [Next.Shrinks]; omega
    · trivial
  split
  · split
    · exact length_dropWhile_le _ _
    · exact Nat.le_refl _
  split
  · split
    next left same => rw [same] at blanks; simp only [List.length_cons] at blanks; simp only [Next.Shrinks]; omega
    · exact Nat.le_refl _
  split
  · simp [Next.Shrinks]
  split
  · simp only [Next.Shrinks]; omega
  · exact Nat.le_refl _

/-- The tokens of a line's rest, or the part of it that an unterminated literal starts. -/
def scan (afterOperand : Bool) : List Char → Except (List Char) (List Token)
  | [] => .ok []
  | c :: rest =>
    match _step : next afterOperand c rest with
    | .comment => .ok []
    | .unterminated => .error (c :: rest)
    | .blank left => scan afterOperand left
    | .token token left => (scan token.endsOperand left).map (token :: ·)
termination_by cs => cs.length
decreasing_by
  all_goals
    have := next_shrinks afterOperand c rest
    simp only [_step, Next.Shrinks] at this
    simp only [List.length_cons]
    omega

end Token

/-- The tokens of a line. -/
def tokenize (line : List Char) : Except LexError (List Token) :=
  (Token.scan false line).mapError fun dangling => .unterminatedLiteral (line.length - dangling.length)

end SignatureLint
