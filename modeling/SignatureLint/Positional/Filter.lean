import SignatureLint.Token.Basic

/-!
# The tokens that format 1 reads

Format 1 gives no place to type arguments and annotations: both are taken out of a line before it is
read. A type argument group goes with everything in it; an annotation goes with the token after its
mark and the argument group behind that. A closing mark with no group open stays, a group that is not
closed runs to the end of the line.
-/

namespace SignatureLint.Positional

/-- The tokens after the bracket that closes an open group, in which `depth` more groups are open; none
if the group is not closed. -/
def afterBrackets : Nat → List Token → List Token
  | _, [] => []
  | depth, .punct '(' :: rest => afterBrackets (depth + 1) rest
  | 0, .punct ')' :: rest => rest
  | depth + 1, .punct ')' :: rest => afterBrackets depth rest
  | depth, _ :: rest => afterBrackets depth rest

/-- The tokens after an argument group, if one starts here. -/
def afterArguments : List Token → List Token
  | .punct '(' :: rest => afterBrackets 0 rest
  | ts => ts

theorem length_afterBrackets (depth : Nat) (ts : List Token) : (afterBrackets depth ts).length ≤ ts.length := by
  fun_induction afterBrackets depth ts with
  | case1 => exact Nat.le_refl _
  | case2 _ _ ih => simp only [List.length_cons]; omega
  | case3 => simp
  | case4 _ _ ih => simp only [List.length_cons]; omega
  | case5 _ _ _ _ _ ih => simp only [List.length_cons]; omega

theorem length_afterArguments (ts : List Token) : (afterArguments ts).length ≤ ts.length := by
  unfold afterArguments
  split
  · have := length_afterBrackets 0 ‹List Token›
    simp only [List.length_cons]; omega
  · exact Nat.le_refl _

/-- The tokens that are left inside `depth` groups of type arguments. -/
def plainTokens (depth : Nat) (ts : List Token) : List Token :=
  match depth, ts with
  | _, [] => []
  | depth, .punct '<' :: rest => plainTokens (depth + 1) rest
  | depth + 1, .punct '>' :: rest => plainTokens depth rest
  | depth + 1, _ :: rest => plainTokens (depth + 1) rest
  | 0, .atSign :: rest => plainTokens 0 (afterArguments rest.tail)
  | 0, t :: rest => t :: plainTokens 0 rest
termination_by ts.length
decreasing_by
  all_goals
    have := length_afterArguments rest.tail
    simp only [List.length_tail] at this
    simp only [List.length_cons]
    omega

end SignatureLint.Positional
