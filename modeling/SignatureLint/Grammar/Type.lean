import SignatureLint.Declaration.Basic
import SignatureLint.Declaration.Platform
import SignatureLint.Grammar.Step

/-!
# Annotations, modifiers, types and values

The parts of which format 2 declarations are made. An annotation is a name after its mark, with an
argument group that is dropped. A type is a dotted name, qualified, with a suffix for each array
dimension; its annotations, type arguments and marks of nullability are dropped. A value is the
text of its tokens up to a terminator outside all brackets.
-/

namespace SignatureLint.Grammar

/-- The words that can stand before a declaration's type or kind. -/
def modifierWords : List String := [
  "public", "protected", "internal", "private", "abstract", "default", "static", "final", "transient", "volatile",
  "synchronized", "native", "operator", "sealed", "strictfp", "infix", "inline", "suspend", "vararg"]

/-- The modifiers of a declaration: its words, its kind, and `deprecated` if it is annotated so. -/
def modifierSet (kind : String) (annotations words : List String) : Modifiers :=
  let modifiers := (SortedBy.ofList words : Modifiers).insert kind
  if "@Deprecated" ∈ annotations then modifiers.insert "deprecated" else modifiers

/-- The annotation whose mark has been read. -/
def annotation (ts : List Token) : Except Mismatch (String × List Token) := do
  let (name, ts) ← word .name ts
  let ts ← skipGroup (.punct '(') (.punct ')') ts
  return ("@" ++ name, ts)

theorem length_annotation {ts rest : List Token} {text : String} (read : annotation ts = .ok (text, rest)) :
    rest.length < ts.length := by
  obtain ⟨⟨name, left⟩, named, read⟩ := bind_eq_ok.mp read
  obtain ⟨left', skipped, read⟩ := bind_eq_ok.mp read
  cases pure_eq_ok.mp read
  have := length_word named
  have := length_skipGroup skipped
  omega

/-- All annotations that stand here. -/
def annotations (ts : List Token) : Except Mismatch (List String × List Token) :=
  match ts with
  | .atSign :: rest =>
    match _one : annotation rest with
    | .error e => .error e
    | .ok (text, rest) => (annotations rest).map fun (more, rest) => (text :: more, rest)
  | _ => .ok ([], ts)
termination_by ts.length
decreasing_by
  have := length_annotation _one
  simp only [List.length_cons]; omega

/-- What may follow the name and the arguments of a type: array dimensions, which are counted, and
annotations and marks of nullability, which are not. -/
def typeSuffix (ts : List Token) : Except Mismatch (Nat × List Token) :=
  match ts with
  | .atSign :: rest =>
    match _one : annotation rest with
    | .error e => .error e
    | .ok (_, rest) => typeSuffix rest
  | .array :: rest => (typeSuffix rest).map fun (dimensions, rest) => (dimensions + 1, rest)
  | .punct '?' :: rest => typeSuffix rest
  | .punct '!' :: rest => typeSuffix rest
  | _ => .ok (0, ts)
termination_by ts.length
decreasing_by
  · have := length_annotation _one
    simp only [List.length_cons]; omega
  all_goals simp

/-- A type's name with `[]` once for each of its dimensions. -/
def withDimensions (name : String) (dimensions : Nat) : String :=
  name ++ String.join (List.replicate dimensions "[]")

/-- The name a type starts with. A word that ends in a dot goes on after the annotations behind it. -/
def typeName (ts : List Token) : Except Mismatch (String × List Token) := do
  let (first, ts) ← word .typeName ts
  if first.toList.getLast? = some '.' then
    let (_, ts) ← annotations ts
    let (second, ts) ← word .typeName ts
    return (first ++ second, ts)
  else return (first, ts)

/-- A type. -/
def type (ts : List Token) : Except Mismatch (String × List Token) := do
  let (_, ts) ← annotations ts
  let (name, ts) ← typeName ts
  let ts ← skipGroup (.punct '<') (.punct '>') ts
  let (dimensions, ts) ← typeSuffix ts
  return (withDimensions (qualify name) dimensions, ts)

/-- Whether the list of a class's supertypes ends before this token. -/
def endsTypeList (t : Token) : Bool := t = .punct '{' || t = .word "implements" || t = .word "extends"

/-! ## What is left -/

theorem length_annotations {ts rest : List Token} {texts : List String}
    (read : annotations ts = .ok (texts, rest)) : rest.length ≤ ts.length := by
  fun_induction annotations ts generalizing texts with
  | case1 => cases read
  | case2 left text left' one ih =>
    cases more : annotations left' with
    | error => rw [more] at read; cases read
    | ok found =>
      rw [more] at read
      cases read
      have := ih more
      have := length_annotation one
      simp only [List.length_cons]; omega
  | case3 => cases read; exact Nat.le_refl _

theorem length_typeSuffix {ts rest : List Token} {dimensions : Nat}
    (read : typeSuffix ts = .ok (dimensions, rest)) : rest.length ≤ ts.length := by
  fun_induction typeSuffix ts generalizing dimensions with
  | case1 => cases read
  | case2 left _ left' one ih =>
    have := ih read
    have := length_annotation one
    simp only [List.length_cons]; omega
  | case3 left ih =>
    cases more : typeSuffix left with
    | error => rw [more] at read; cases read
    | ok found =>
      rw [more] at read
      cases read
      have := ih more
      simp only [List.length_cons]; omega
  | case4 _ ih => have := ih read; simp only [List.length_cons]; omega
  | case5 _ ih => have := ih read; simp only [List.length_cons]; omega
  | case6 => cases read; exact Nat.le_refl _

theorem length_typeName {ts rest : List Token} {name : String} (read : typeName ts = .ok (name, rest)) :
    rest.length < ts.length := by
  obtain ⟨⟨first, left⟩, named, read⟩ := bind_eq_ok.mp read
  have := length_word named
  dsimp only at read
  split at read
  · obtain ⟨⟨_, left'⟩, annotated, read⟩ := bind_eq_ok.mp read
    obtain ⟨⟨second, left''⟩, continued, read⟩ := bind_eq_ok.mp read
    cases pure_eq_ok.mp read
    have := length_annotations annotated
    have := length_word continued
    dsimp only at *
    omega
  · cases pure_eq_ok.mp read
    omega

theorem length_type {ts rest : List Token} {text : String} (read : type ts = .ok (text, rest)) :
    rest.length < ts.length := by
  obtain ⟨⟨_, left⟩, annotated, read⟩ := bind_eq_ok.mp read
  obtain ⟨⟨name, left'⟩, named, read⟩ := bind_eq_ok.mp read
  obtain ⟨left'', skipped, read⟩ := bind_eq_ok.mp read
  obtain ⟨⟨_, left'''⟩, suffixed, read⟩ := bind_eq_ok.mp read
  cases pure_eq_ok.mp read
  have := length_annotations annotated
  have := length_typeName named
  have := length_skipGroup skipped
  have := length_typeSuffix suffixed
  omega

/-- The types after the first in a list of supertypes: each may have a comma before it, and one more
comma may end the list. -/
def moreTypes (ts : List Token) : Except Mismatch (List String × List Token) :=
  if (skipIf (.punct ',') ts).head?.all endsTypeList then .ok ([], skipIf (.punct ',') ts)
  else
    match _one : type (skipIf (.punct ',') ts) with
    | .error e => .error e
    | .ok (text, rest) => (moreTypes rest).map fun (more, rest) => (text :: more, rest)
termination_by ts.length
decreasing_by
  have := length_type _one
  have := length_skipIf (.punct ',') ts
  omega

/-- A list of supertypes. -/
def typeList (ts : List Token) : Except Mismatch (List String × List Token) := do
  let (first, ts) ← type ts
  let (more, ts) ← moreTypes ts
  return (first :: more, ts)

/-! ## Values -/

/-- The depth in brackets after a token. A closing bracket without its opening one changes nothing. -/
def depthAfter (depth : Nat) : Token → Nat
  | .punct '(' => depth + 1
  | .punct '{' => depth + 1
  | .punct ')' => depth - 1
  | .punct '}' => depth - 1
  | _ => depth

/-- The tokens before the first terminator outside all brackets, and those from it on. -/
def valueTokens (terminators : List Token) (depth : Nat) : List Token → Option (List Token × List Token)
  | [] => none
  | t :: rest =>
    if depth = 0 ∧ t ∈ terminators then some ([], t :: rest)
    else (valueTokens terminators (depthAfter depth t) rest).map fun (tokens, rest) => (t :: tokens, rest)

/-- A value, as the text of its tokens with one space between two of them. -/
def value (terminators : List Token) (ts : List Token) : Except Mismatch (String × List Token) :=
  match valueTokens terminators 0 ts with
  | none => .error (.ended (.terminator terminators))
  | some ([], _) => .error .noValue
  | some (tokens, rest) => .ok (spaced tokens, rest)

/-- A value after the token that announces it, if that token is next. -/
def valueAfter (announced : Token) (terminators : List Token) (ts : List Token) :
    Except Mismatch (Option String × List Token) :=
  match takeIf announced ts with
  | (true, rest) => (value terminators rest).map fun (text, rest) => (some text, rest)
  | (false, rest) => .ok (none, rest)

theorem length_valueTokens {terminators ts tokens rest : List Token} {depth : Nat}
    (read : valueTokens terminators depth ts = some (tokens, rest)) : rest.length ≤ ts.length := by
  induction ts generalizing depth tokens with
  | nil => cases read
  | cons t ts ih =>
    unfold valueTokens at read
    split at read
    · cases read; exact Nat.le_refl _
    · obtain ⟨⟨inner, left⟩, more, same⟩ := Option.map_eq_some_iff.mp read
      cases same
      have := ih more
      simp only [List.length_cons]; omega

theorem length_value {terminators ts rest : List Token} {text : String}
    (read : value terminators ts = .ok (text, rest)) : rest.length ≤ ts.length := by
  unfold value at read
  split at read
  · cases read
  · cases read
  next tokens left _ found =>
    cases read
    exact length_valueTokens found

theorem length_valueAfter {announced : Token} {terminators ts rest : List Token} {text : Option String}
    (read : valueAfter announced terminators ts = .ok (text, rest)) : rest.length ≤ ts.length := by
  have shorter := length_takeIf announced ts
  unfold valueAfter at read
  split at read
  next left taken =>
    rw [taken] at shorter
    cases found : value terminators left with
    | error => rw [found] at read; cases read
    | ok answer =>
      rw [found] at read
      cases read
      have := length_value found
      simp only at shorter
      omega
  next left taken =>
    cases read
    rw [taken] at shorter
    exact shorter

end SignatureLint.Grammar
