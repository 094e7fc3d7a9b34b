import SignatureLint.Grammar.Type

/-!
# Package and class headers

The lines that open a package and, in format 2, a class. A class header is annotations, modifiers, a
kind, a name with type parameters, and the supertypes it extends and implements. Enums are final. An
interface extends its supertypes and implements them as well, unless it says what it implements.
-/

namespace SignatureLint

namespace ClassKind

/-- The token of a kind's keyword. -/
def token : ClassKind → Token
  | .annotationType => .atInterface
  | kind => .word kind.keyword

/-- The modifiers that a kind brings with it. -/
def implied : ClassKind → List String
  | .enum => ["final"]
  | _ => []

end ClassKind

namespace Grammar

/-- The supertypes after a keyword; none if the keyword is not next. -/
def supertypes (keyword : String) (ts : List Token) : Except Mismatch (List String × List Token) :=
  match takeIf (.word keyword) ts with
  | (true, rest) => typeList rest
  | (false, rest) => .ok ([], rest)

/-- The line of a package: its name and its modifiers. -/
def packageHeader (ts : List Token) : Except Mismatch (String × Modifiers) := do
  let ts ← expect (.word "package") ts
  let (annotations, ts) ← annotations ts
  let (name, ts) ← word .name ts
  let ts ← expect (.punct '{') ts
  finish ts
  return (name, modifierSet "package" annotations [])

/-- The header line of a class. -/
def classHeader (ts : List Token) : Except Mismatch ClassHeader := do
  let (annotations, ts) ← annotations ts
  let (words, ts) := wordsAmong modifierWords ts
  let (kind, ts) ← choose ClassKind.all ClassKind.token ts
  let (name, ts) ← word .name ts
  let ts ← skipGroup (.punct '<') (.punct '>') ts
  let (extended, ts) ← supertypes "extends" ts
  let (implemented, ts) ← supertypes "implements" ts
  let ts ← expect (.punct '{') ts
  finish ts
  return {
    modifiers := modifierSet kind.keyword annotations (words ++ kind.implied)
    annotations
    declared := name
    superclasses := extended
    interfaces := if kind = .interface ∧ implemented = [] then extended else implemented }

end Grammar

end SignatureLint
