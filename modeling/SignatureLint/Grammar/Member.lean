import SignatureLint.Grammar.Sequence
import SignatureLint.Grammar.Type

/-!
# Members in format 2

The lines of constructors, methods and fields. A member is its kind, annotations, modifiers, a type
(constructors have none), a name, and what belongs to its kind: parameters and thrown types, or a
value. Only an element of an annotation type can have a default.
-/

namespace SignatureLint

namespace MethodKind

/-- The token of a kind's keyword. -/
def token (kind : MethodKind) : Token := .word kind.keyword

end MethodKind

namespace FieldKind

/-- The token of a kind's keyword. -/
def token (kind : FieldKind) : Token := .word kind.keyword

end FieldKind

namespace Grammar

/-- Drops one mark of nullability, if one is next. -/
def skipNullability : List Token → List Token
  | .punct '?' :: rest => rest
  | .punct '!' :: rest => rest
  | ts => ts

/-- The type of a parameter, with three dots if it takes any number of arguments. -/
def parameterType (ts : List Token) : Except Mismatch (String × List Token) := do
  let (text, ts) ← type ts
  match takeIf .ellipsis ts with
  | (true, ts) => return (text ++ "...", skipNullability ts)
  | (false, ts) => return (text, skipNullability ts)

/-- The name of a parameter, which may be left out. -/
def parameterName (ts : List Token) : Except Mismatch (Option String × List Token) :=
  match ts with
  | .punct ',' :: _ => .ok (none, ts)
  | .punct ')' :: _ => .ok (none, ts)
  | .punct '=' :: _ => .ok (none, ts)
  | _ => (word .name ts).map fun (name, rest) => (some name, rest)

/-- A parameter. -/
def parameter (ts : List Token) : Except Mismatch (Parameter × List Token) := do
  let (annotations, ts) ← annotations (skipIf (.word "vararg") ts)
  let (type, ts) ← parameterType ts
  let (name, ts) ← parameterName ts
  let (value, ts) ← valueAfter (.punct '=') [.punct ',', .punct ')'] ts
  return ({ type, name, annotations, value }, ts)

theorem length_skipNullability (ts : List Token) : (skipNullability ts).length ≤ ts.length := by
  unfold skipNullability
  split <;> simp

theorem length_parameterType {ts rest : List Token} {text : String}
    (read : parameterType ts = .ok (text, rest)) : rest.length < ts.length := by
  obtain ⟨⟨_, left⟩, typed, read⟩ := bind_eq_ok.mp read
  have := length_type typed
  have shorter := length_takeIf .ellipsis left
  dsimp only at read
  split at read
  all_goals
    next left' taken =>
      cases pure_eq_ok.mp read
      have := length_skipNullability left'
      rw [taken] at shorter
      dsimp only at shorter
      omega

theorem length_parameterName {ts rest : List Token} {name : Option String}
    (read : parameterName ts = .ok (name, rest)) : rest.length ≤ ts.length := by
  unfold parameterName at read
  split at read
  · cases read; exact Nat.le_refl _
  · cases read; exact Nat.le_refl _
  · cases read; exact Nat.le_refl _
  · cases named : word .name ts with
    | error => rw [named] at read; cases read
    | ok answer =>
      rw [named] at read
      cases read
      exact Nat.le_of_lt (length_word named)

theorem length_parameter {ts rest : List Token} {p : Parameter} (read : parameter ts = .ok (p, rest)) :
    rest.length < ts.length := by
  obtain ⟨⟨_, left⟩, annotated, read⟩ := bind_eq_ok.mp read
  obtain ⟨⟨_, left'⟩, typed, read⟩ := bind_eq_ok.mp read
  obtain ⟨⟨_, left''⟩, named, read⟩ := bind_eq_ok.mp read
  obtain ⟨⟨_, left'''⟩, valued, read⟩ := bind_eq_ok.mp read
  cases pure_eq_ok.mp read
  have := length_skipIf (.word "vararg") ts
  have := length_annotations annotated
  have := length_parameterType typed
  have := length_parameterName named
  have := length_valueAfter valued
  omega

/-- A type as an element of a sequence. -/
def typeElement : Element String := ⟨type, length_type⟩

/-- A parameter as an element of a sequence. -/
def parameterElement : Element Parameter := ⟨parameter, length_parameter⟩

/-- The type of a method's result. A constructor has none and stands under its keyword. -/
def resultType (type : Element String) (kind : MethodKind) (ts : List Token) :
    Except Mismatch (String × List Token) :=
  match kind with
  | .constructor => .ok (kind.keyword, ts)
  | .method => type.read ts

/-- The default of an element of an annotation type. -/
def elementDefault (inAnnotationType : Bool) (ts : List Token) : Except Mismatch (Option String × List Token) :=
  if inAnnotationType then valueAfter (.word "default") [.punct ';'] ts else .ok (none, ts)

/-- The line of a constructor or method. -/
def method (inAnnotationType : Bool) (ts : List Token) : Except Mismatch MethodSignature := do
  let (kind, ts) ← choose MethodKind.all MethodKind.token ts
  let (annotations, ts) ← annotations ts
  let (words, ts) := wordsAmong modifierWords ts
  let ts ← skipGroup (.punct '<') (.punct '>') ts
  let (type, ts) ← resultType typeElement kind ts
  let (name, ts) ← word .name ts
  let (parameters, ts) ← parameterElement.bracketed ts
  let (throws, ts) ← typeElement.clause "throws" ts
  let (value, ts) ← elementDefault inAnnotationType ts
  let ts ← expect (.punct ';') ts
  finish ts
  return { kind, modifiers := modifierSet kind.keyword annotations words, annotations, type, name, parameters,
           throws, value }

/-- The line of a field. -/
def field (ts : List Token) : Except Mismatch FieldSignature := do
  let (kind, ts) ← choose FieldKind.all FieldKind.token ts
  let (annotations, ts) ← annotations ts
  let (words, ts) := wordsAmong modifierWords ts
  let (type, ts) ← type ts
  let (name, ts) ← word .name ts
  let (value, ts) ← valueAfter (.punct '=') [.punct ';'] ts
  let ts ← expect (.punct ';') ts
  finish ts
  return { modifiers := modifierSet kind.keyword annotations words, annotations, type, name, value }

end Grammar

end SignatureLint
