/-!
# Tokens of a declaration line

A declaration line is a sequence of words, quoted literals and marks. Identifiers, dotted names,
keywords and numbers are all words: only the grammar tells them apart. `Token.text` is how a token is
spelled when a message or a value shows it.
-/

namespace SignatureLint

inductive Token where
  /-- An identifier, a dotted name, a keyword or a number. -/
  | word (text : String)
  /-- A text in double quotes; quotes and escapes belong to it. -/
  | literal (text : String)
  /-- The mark `@` before the name of an annotation. -/
  | atSign
  /-- The keyword of an annotation type. -/
  | atInterface
  /-- An array dimension, however wide its brackets stood. -/
  | array
  /-- Three dots: any number of arguments. -/
  | ellipsis
  /-- Any other character. -/
  | punct (char : Char)
deriving DecidableEq, Repr

namespace Token

/-- The spelling of a token. -/
def text : Token → String
  | .word text => text
  | .literal text => text
  | .atSign => "@"
  | .atInterface => "@interface"
  | .array => "[]"
  | .ellipsis => "..."
  | .punct char => String.singleton char

/-- Whether a value can end with this token, so that a minus after it subtracts and is no sign. -/
def endsOperand : Token → Bool
  | .word _ => true
  | .literal _ => true
  | .punct char => char = ')' || char = ']'
  | _ => false

end Token

/-- The spellings of tokens, one space between two of them. -/
def spaced (tokens : List Token) : String := " ".intercalate (tokens.map Token.text)

end SignatureLint
