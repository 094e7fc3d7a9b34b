import SignatureLint.Grammar.Step

/-!
# Sequences with commas

Parameters and thrown types stand in sequences, and both formats write them alike; only their
elements differ. An `Element` is a reading that takes at least one token, and a sequence repeats it.
-/

namespace SignatureLint.Grammar

/-- A reading that takes at least one token. -/
structure Element (α : Type) where
  read : List Token → Except Mismatch (α × List Token)
  shrinks : ∀ {ts rest : List Token} {a : α}, read ts = .ok (a, rest) → rest.length < ts.length

namespace Element

variable {α : Type}

/-- The elements from the first on, up to the bracket that closes them. -/
def untilBracket (element : Element α) (ts : List Token) : Except Mismatch (List α × List Token) :=
  match _one : element.read ts with
  | .error e => .error e
  | .ok (a, rest) =>
    match takeIf (.punct ')') rest with
    | (true, rest) => .ok ([a], rest)
    | (false, _) =>
      match _separated : expect (.punct ',') rest with
      | .error e => .error e
      | .ok rest => (element.untilBracket rest).map fun (more, rest) => (a :: more, rest)
termination_by ts.length
decreasing_by
  have := element.shrinks _one
  have := length_expect _separated
  omega

/-- The elements in brackets; there may be none. -/
def bracketed (element : Element α) (ts : List Token) : Except Mismatch (List α × List Token) := do
  let ts ← expect (.punct '(') ts
  match takeIf (.punct ')') ts with
  | (true, ts) => return ([], ts)
  | (false, ts) => element.untilBracket ts

/-- The elements after the first, each with a comma before it. -/
def afterCommas (element : Element α) (ts : List Token) : Except Mismatch (List α × List Token) :=
  match ts with
  | .punct ',' :: rest =>
    match _one : element.read rest with
    | .error e => .error e
    | .ok (a, rest) => (element.afterCommas rest).map fun (more, rest) => (a :: more, rest)
  | _ => .ok ([], ts)
termination_by ts.length
decreasing_by
  have := element.shrinks _one
  simp only [List.length_cons]; omega

/-- The elements after a keyword; none if the keyword is not next. -/
def clause (element : Element α) (keyword : String) (ts : List Token) : Except Mismatch (List α × List Token) :=
  match takeIf (.word keyword) ts with
  | (true, ts) => do
    let (first, ts) ← element.read ts
    let (more, ts) ← element.afterCommas ts
    return (first :: more, ts)
  | (false, ts) => .ok ([], ts)

end Element

end SignatureLint.Grammar
