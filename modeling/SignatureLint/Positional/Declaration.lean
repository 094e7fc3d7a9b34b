import SignatureLint.Grammar.Header
import SignatureLint.Grammar.Member
import SignatureLint.Positional.Filter

/-!
# Declarations in format 1

Format 1 is positional: modifier words stand in any order before the two words that are the type and
the name, and what a word means depends on its place alone. No annotation is ever read. A class is all
tokens up to its kind, which are its modifiers, a name, and one supertype after each keyword of a
clause; every other token of its line is passed over.
-/

namespace SignatureLint.Positional

open Grammar

/-- The modifiers of methods. -/
def methodModifiers : List String := [
  "public", "protected", "static", "final", "deprecated", "abstract", "default", "operator", "synchronized",
  "native", "strictfp"]

/-- The modifiers of fields. -/
def fieldModifiers : List String := [
  "volatile", "transient", "public", "protected", "static", "final", "deprecated"]

/-- The tokens up to the first that is a kind of class, that kind, and the tokens after it. -/
def splitAtKind : List Token → Option (List Token × ClassKind × List Token)
  | [] => none
  | t :: rest =>
    match ClassKind.all.find? fun kind => kind.token = t with
    | some kind => some ([], kind, rest)
    | none => (splitAtKind rest).map fun (before, kind, after) => (t :: before, kind, after)

/-- The supertypes of a class: those after `extends` and those after `implements`, one for each time
the keyword stands there. -/
def clauses : List Token → Except Mismatch (List String × List String)
  | [] => .ok ([], [])
  | .word "extends" :: .word name :: rest =>
    (clauses rest).map fun (extended, implemented) => (qualify name :: extended, implemented)
  | .word "implements" :: .word name :: rest =>
    (clauses rest).map fun (extended, implemented) => (extended, qualify name :: implemented)
  | .word "extends" :: rest => (word .name rest).map fun _ => ([], [])
  | .word "implements" :: rest => (word .name rest).map fun _ => ([], [])
  | _ :: rest => clauses rest

/-- The header of a class from the token after its kind on; `before` are the tokens before the kind. -/
def classHeader (before : List Token) (kind : ClassKind) (after : List Token) : Except Mismatch ClassHeader := do
  let (name, rest) ← word .name after
  let (extended, implemented) ← clauses rest
  return {
    modifiers := modifierSet kind.keyword [] (before.map Token.text ++ kind.implied)
    annotations := []
    declared := name
    superclasses := extended
    interfaces := implemented }

/-- The dimensions that stand here, and the tokens after them. -/
def dimensions : List Token → Nat × List Token
  | .array :: rest => ((dimensions rest).1 + 1, (dimensions rest).2)
  | ts => (0, ts)

/-- A type: a word and its dimensions. -/
def type (ts : List Token) : Except Mismatch (String × List Token) :=
  (word .name ts).map fun (name, ts) => (withDimensions (qualify name) (dimensions ts).1, (dimensions ts).2)

/-- The name of a parameter, if a word is next. -/
def parameterName : List Token → Option String × List Token
  | .word name :: rest => (some name, rest)
  | ts => (none, ts)

/-- A parameter: a type, three dots if it takes any number of arguments, and a name. -/
def parameter (ts : List Token) : Except Mismatch (Parameter × List Token) :=
  (type ts).map fun (text, ts) =>
    let named := parameterName (skipIf .ellipsis ts)
    ({ type := if (takeIf .ellipsis ts).1 then text ++ "..." else text
       name := named.1
       annotations := []
       value := none }, named.2)

theorem length_dimensions (ts : List Token) : (dimensions ts).2.length ≤ ts.length := by
  fun_induction dimensions ts with
  | case1 rest ih => simp only [List.length_cons]; omega
  | case2 => exact Nat.le_refl _

theorem length_type {ts rest : List Token} {text : String} (read : type ts = .ok (text, rest)) :
    rest.length < ts.length := by
  unfold type at read
  cases named : word .name ts with
  | error => rw [named] at read; cases read
  | ok answer =>
    rw [named] at read
    cases read
    have := length_word named
    have := length_dimensions answer.2
    omega

theorem length_parameterName (ts : List Token) : (parameterName ts).2.length ≤ ts.length := by
  unfold parameterName
  split <;> simp

theorem length_parameter {ts rest : List Token} {p : Parameter} (read : parameter ts = .ok (p, rest)) :
    rest.length < ts.length := by
  unfold parameter at read
  cases typed : type ts with
  | error => rw [typed] at read; cases read
  | ok answer =>
    rw [typed] at read
    cases read
    have := length_type typed
    have := length_skipIf .ellipsis answer.2
    have := length_parameterName (skipIf .ellipsis answer.2)
    omega

/-- A type as an element of a sequence. -/
def typeElement : Element String := ⟨type, length_type⟩

/-- A parameter as an element of a sequence. -/
def parameterElement : Element Parameter := ⟨parameter, length_parameter⟩

/-- A constructor or method. -/
def method (ts : List Token) : Except Mismatch MethodSignature := do
  let (kind, ts) ← choose MethodKind.all MethodKind.token ts
  let (words, ts) := wordsAmong methodModifiers ts
  let (type, ts) ← resultType typeElement kind ts
  let (name, ts) ← word .name ts
  let (parameters, ts) ← parameterElement.bracketed ts
  let (throws, ts) ← typeElement.clause "throws" ts
  let (value, ts) ← valueAfter (.word "default") [.punct ';'] ts
  let ts ← expect (.punct ';') ts
  finish ts
  return { kind, modifiers := modifierSet kind.keyword [] words, annotations := [], type, name, parameters, throws,
           value }

/-- A field. -/
def field (ts : List Token) : Except Mismatch FieldSignature := do
  let (kind, ts) ← choose FieldKind.all FieldKind.token ts
  let (words, ts) := wordsAmong fieldModifiers ts
  let (type, ts) ← type ts
  let (name, ts) ← word .name ts
  let (value, ts) ← valueAfter (.punct '=') [.punct ';'] ts
  let ts ← expect (.punct ';') ts
  finish ts
  return { modifiers := modifierSet kind.keyword [] words, annotations := [], type, name, value }

end SignatureLint.Positional
