import SignatureLint.Dump.Line
import SignatureLint.Positional.Declaration

/-!
# Declarations from lines

One line makes one declaration. A package line is read alike in both formats. A class is read in the
format of its dump and starts without members; a member is read in the format of its class, and a
format 2 method is told whether its class is an annotation type. The errors show the tokens that the
grammar was given: in format 1 those that are left without type arguments and annotations, and for a
class those after its kind.
-/

namespace SignatureLint

namespace Line

/-- The tokens of a line. -/
def tokens (line : Line) : Except DeclarationError (List Token) := (tokenize line.text).mapError .lexical

/-- The tokens of a line without type arguments and annotations. -/
def plainTokens (line : Line) : Except DeclarationError (List Token) := line.tokens.map (Positional.plainTokens 0)

end Line

/-- What a grammar makes of the tokens, with those tokens in its error. -/
def readTokens {α : Type} (grammar : List Token → Except Mismatch α) (tokens : List Token) :
    Except DeclarationError α :=
  (grammar tokens).mapError fun cause => .mismatch cause tokens

namespace Package

def read (line : Line) : Except DeclarationError Package := do
  let (name, modifiers) ← readTokens Grammar.packageHeader (← line.tokens)
  return { name, modifiers, origin := line.origin }

end Package

namespace ClassHeader

def read (format : Format) (line : Line) : Except DeclarationError ClassHeader :=
  match format with
  | .v2 => do readTokens Grammar.classHeader (← line.tokens)
  | .v1 => do
    match Positional.splitAtKind (← line.plainTokens) with
    | some (before, kind, after) => readTokens (Positional.classHeader before kind) after
    | none => throw (.noClassKind (String.ofList (Text.trim line.text)))

end ClassHeader

namespace Class

/-- A class of the package, without members. -/
def read (package : Package) (format : Format) (line : Line) : Except DeclarationError Class :=
  (ClassHeader.read format line).map fun header =>
    { header with package := package.name, origin := line.origin, format, methods := [], fields := [] }

end Class

namespace MethodSignature

def read (format : Format) (inAnnotationType : Bool) (line : Line) : Except DeclarationError MethodSignature :=
  match format with
  | .v2 => do readTokens (Grammar.method inAnnotationType) (← line.tokens)
  | .v1 => do readTokens Positional.method (← line.plainTokens)

end MethodSignature

namespace Method

/-- A constructor or method of the class. -/
def read (owner : Class) (line : Line) : Except DeclarationError Method :=
  (MethodSignature.read owner.format owner.isAnnotationType line).map fun signature =>
    { signature with owner := owner.fullname, origin := line.origin }

end Method

namespace FieldSignature

def read (format : Format) (line : Line) : Except DeclarationError FieldSignature :=
  match format with
  | .v2 => do readTokens Grammar.field (← line.tokens)
  | .v1 => do readTokens Positional.field (← line.plainTokens)

end FieldSignature

namespace Field

/-- A field of the class. -/
def read (owner : Class) (line : Line) : Except DeclarationError Field :=
  (FieldSignature.read owner.format line).map fun signature =>
    { signature with owner := owner.fullname, origin := line.origin }

end Field

end SignatureLint
