import SignatureLint.Text.Quoted
import SignatureLint.Token.Lexer

/-!
# Why a line is no declaration

A line may have no tokens at all (`LexError`), or tokens that no declaration is made of. A `Mismatch`
is found by the grammar at one token and knows nothing of the line around it; `DeclarationError` adds
the tokens of the line, which most messages show.
-/

namespace SignatureLint

/-- What the grammar looked for. -/
inductive Wanted where
  | token (token : Token)
  /-- The name of a class, member, parameter or annotation. -/
  | name
  /-- The name that a type starts with. -/
  | typeName
  | oneOf (options : List Token)
  /-- The end of a value. -/
  | terminator (options : List Token)
deriving DecidableEq, Repr

/-- What the grammar met instead. -/
inductive Mismatch where
  | found (wanted : Wanted) (token : Token)
  /-- The line ended. -/
  | ended (wanted : Wanted)
  /-- A bracketed group, shown from its opening mark on, that is not closed. -/
  | unclosed (opening : Token) (group : List Token)
  /-- Tokens after the end of the declaration. -/
  | trailing (rest : List Token)
  /-- A value of no tokens. -/
  | noValue
deriving DecidableEq, Repr

/-- Why a line is no declaration. -/
inductive DeclarationError where
  | lexical (error : LexError)
  | mismatch (cause : Mismatch) (line : List Token)
  /-- No word of the line, shown without blanks around it, is a kind of class. -/
  | noClassKind (line : String)
deriving DecidableEq, Repr

/-- The tokens' spellings as a quoted list. -/
def quotedTokens (tokens : List Token) : String := Text.quotedList (tokens.map Token.text)

namespace Wanted

private def ticked (t : Token) : String := "`" ++ t.text ++ "`"

/-- What was wanted, where another token was found. -/
def besideFound : Wanted → String
  | .token t => "expected `" ++ t.text ++ "`"
  | .name => "expected `name`"
  | .typeName => "expected `type`"
  | .oneOf options => "expected one of " ++ quotedTokens options
  | .terminator options => "expected " ++ " or ".intercalate (options.map ticked)

/-- What was wanted, where the line ended. -/
def atEnd : Wanted → String
  | .token t => ticked t
  | .name => "name"
  | .typeName => "type"
  | .oneOf options => "one of " ++ quotedTokens options
  | .terminator options => " or ".intercalate (options.map ticked)

end Wanted

namespace Mismatch

/-- The message for a mismatch in a line of these tokens. -/
def message (line : List Token) : Mismatch → String
  | .found wanted token => wanted.besideFound ++ " but found `" ++ token.text ++ "` in " ++ quotedTokens line
  | .ended wanted =>
    "unexpected end of declaration while looking for " ++ wanted.atEnd ++ " in " ++ quotedTokens line
  | .unclosed opening group => "unclosed `" ++ opening.text ++ "` group in " ++ quotedTokens group
  | .trailing rest => "expected end of declaration, but " ++ quotedTokens rest ++ " has not been parsed"
  | .noValue => "unrecognized declaration: missing value expression"

end Mismatch

namespace DeclarationError

def message : DeclarationError → String
  | .lexical error => error.message
  | .mismatch cause line => cause.message line
  | .noClassKind line => "unrecognized declaration: funky class type " ++ line

end DeclarationError

end SignatureLint
