import SignatureLint.Declaration.Error

/-!
# Steps of the grammar

The steps that every declaration is read with. A step takes the tokens that are left and answers what
it read and the tokens after it, or a `Mismatch`. What a step leaves is a suffix of what it was given;
the lemmas on lengths say which steps always take something, and the repetitions rest on them.
-/

namespace SignatureLint.Grammar

theorem bind_eq_ok {ε α β : Type} {x : Except ε α} {f : α → Except ε β} {b : β} :
    (x >>= f) = .ok b ↔ ∃ a, x = .ok a ∧ f a = .ok b := by
  cases x <;> simp [bind, Except.bind]

theorem pure_eq_ok {ε α : Type} {a b : α} : (pure a : Except ε α) = .ok b ↔ a = b := by simp [pure, Except.pure]

/-- Reads the token `t`. -/
def expect (t : Token) : List Token → Except Mismatch (List Token)
  | [] => .error (.ended (.token t))
  | u :: rest => if u = t then .ok rest else .error (.found (.token t) u)

/-- Reads the token `t` if it is next. -/
def takeIf (t : Token) : List Token → Bool × List Token
  | [] => (false, [])
  | u :: rest => if u = t then (true, rest) else (false, u :: rest)

/-- Drops the token `t` if it is next. -/
def skipIf (t : Token) (ts : List Token) : List Token := (takeIf t ts).2

/-- Reads a word, which stands for what is wanted. -/
def word (wanted : Wanted) : List Token → Except Mismatch (String × List Token)
  | .word text :: rest => .ok (text, rest)
  | t :: _ => .error (.found wanted t)
  | [] => .error (.ended wanted)

/-- Reads the token of one of the options. -/
def choose {α : Type} (options : List α) (token : α → Token) : List Token → Except Mismatch (α × List Token)
  | [] => .error (.ended (.oneOf (options.map token)))
  | t :: rest =>
    match options.find? fun a => token a = t with
    | some a => .ok (a, rest)
    | none => .error (.found (.oneOf (options.map token)) t)

/-- Reads words as long as they are among the allowed ones. -/
def wordsAmong (allowed : List String) : List Token → List String × List Token
  | .word text :: rest =>
    if text ∈ allowed then
      let (more, rest) := wordsAmong allowed rest
      (text :: more, rest)
    else ([], .word text :: rest)
  | ts => ([], ts)

/-- The tokens after the mark that closes `depth` open groups. -/
def afterGroup (opening closing : Token) : Nat → List Token → Option (List Token)
  | 0, ts => some ts
  | _ + 1, [] => none
  | depth + 1, t :: rest =>
    if t = opening then afterGroup opening closing (depth + 2) rest
    else if t = closing then afterGroup opening closing depth rest
    else afterGroup opening closing (depth + 1) rest

/-- Drops a bracketed group, with all groups inside it, if one starts here. -/
def skipGroup (opening closing : Token) : List Token → Except Mismatch (List Token)
  | [] => .ok []
  | t :: rest =>
    if t = opening then
      match afterGroup opening closing 1 rest with
      | some rest => .ok rest
      | none => .error (.unclosed opening (t :: rest))
    else .ok (t :: rest)

/-- Reads the end of the line. -/
def finish : List Token → Except Mismatch Unit
  | [] => .ok ()
  | rest => .error (.trailing rest)

/-! ## What a step leaves -/

theorem length_expect {t : Token} {ts rest : List Token} (read : expect t ts = .ok rest) :
    rest.length < ts.length := by
  unfold expect at read
  split at read
  · cases read
  · split at read <;> cases read
    simp

theorem length_takeIf (t : Token) (ts : List Token) : (takeIf t ts).2.length ≤ ts.length := by
  unfold takeIf
  split
  · exact Nat.le_refl _
  · split
    · simp
    · exact Nat.le_refl _

theorem length_skipIf (t : Token) (ts : List Token) : (skipIf t ts).length ≤ ts.length := length_takeIf t ts

theorem length_word {wanted : Wanted} {ts rest : List Token} {text : String}
    (read : word wanted ts = .ok (text, rest)) : rest.length < ts.length := by
  unfold word at read
  split at read <;> cases read
  simp

theorem length_afterGroup {opening closing : Token} {depth : Nat} {ts rest : List Token}
    (closed : afterGroup opening closing depth ts = some rest) : rest.length ≤ ts.length := by
  fun_induction afterGroup opening closing depth ts with
  | case1 => cases closed; exact Nat.le_refl _
  | case2 => cases closed
  | case3 _ _ ih => have := ih closed; simp only [List.length_cons]; omega
  | case4 _ _ _ ih => have := ih closed; simp only [List.length_cons]; omega
  | case5 _ _ _ _ _ ih => have := ih closed; simp only [List.length_cons]; omega

theorem length_skipGroup {opening closing : Token} {ts rest : List Token}
    (read : skipGroup opening closing ts = .ok rest) : rest.length ≤ ts.length := by
  unfold skipGroup at read
  split at read
  · cases read; exact Nat.le_refl _
  · split at read
    · split at read
      next left closed =>
        cases read
        have := length_afterGroup closed
        simp only [List.length_cons]; omega
      · cases read
    · cases read; exact Nat.le_refl _

end SignatureLint.Grammar
