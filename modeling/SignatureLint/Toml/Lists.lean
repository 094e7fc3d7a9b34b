import SignatureLint.Toml.Text

/-!
# Lists of strings in TOML

The part of TOML that binds names to lists of strings at the top of a file: `name = ["a", 'b']`, with
comments and blank lines between the bindings and inside the brackets, and a comma allowed after the
last string. A name is bare or a string on one line; a byte order mark may start the file. Everything
else that TOML allows, tables, dotted names and values of other types, binds no list of strings, so a
file that has any of it is refused as one with a fault in its notation is.
-/

namespace SignatureLint.Toml

/-- The characters of bare names. -/
def isBare (c : Char) : Bool := c.isAlphanum || c = '_' || c = '-'

/-- Drops blanks, line ends and comments; fails at a comment with a control character. -/
def skipSpace? (inComment : Bool) : List Char → Option (List Char)
  | [] => some []
  | '\n' :: rest => skipSpace? false rest
  | '\r' :: '\n' :: rest => skipSpace? false rest
  | c :: rest =>
    if inComment then if isText c then skipSpace? true rest else none
    else if c = '#' then skipSpace? true rest
    else if isBlank c then skipSpace? false rest
    else some (c :: rest)

theorem length_skipSpace? {inComment : Bool} {cs rest : List Char} (read : skipSpace? inComment cs = some rest) :
    rest.length ≤ cs.length := by
  fun_induction skipSpace? inComment cs with
  | case1 => cases read; exact Nat.le_refl _
  | case2 _ _ ih => have := ih read; simp only [List.length_cons]; omega
  | case3 _ _ ih => have := ih read; simp only [List.length_cons]; omega
  | case4 _ _ _ _ _ ih => have := ih read; simp only [List.length_cons]; omega
  | case5 => cases read
  | case6 _ _ _ _ _ ih => have := ih read; simp only [List.length_cons]; omega
  | case7 _ _ _ _ _ _ _ _ ih => have := ih read; simp only [List.length_cons]; omega
  | case8 => cases read; exact Nat.le_refl _

/-- The strings of a list after its opening bracket or a comma, and the characters after the list. -/
def strings? (cs : List Char) : Option (List String × List Char) :=
  match _skipped : skipSpace? false cs with
  | none => none
  | some (']' :: rest) => some ([], rest)
  | some start =>
    match _one : string? start with
    | none => none
    | some (text, left) =>
      match _skipped' : skipSpace? false left with
      | some (',' :: rest) => (strings? rest).map fun (texts, rest) => (text :: texts, rest)
      | some (']' :: rest) => some ([text], rest)
      | _ => none
termination_by cs.length
decreasing_by
  have := length_skipSpace? _skipped
  have := length_string? _one
  have := length_skipSpace? _skipped'
  simp only [List.length_cons] at *
  omega

/-- A name, and the characters after it. -/
def name? (cs : List Char) : Option (String × List Char) :=
  match cs.takeWhile isBare with
  | [] => lineString? cs
  | bare => some (String.ofList bare, cs.dropWhile isBare)

/-- The characters from the end of a binding's line on: nothing but blanks and a comment may stand
before it. The comment is left to be skipped with the space before the next binding. -/
def lineRest? (cs : List Char) : Option (List Char) :=
  match cs.dropWhile isBlank with
  | [] => some []
  | '#' :: rest => some ('#' :: rest)
  | rest => afterLineEnd? rest

/-- A name bound to a list of strings, and the characters from the end of its line on. -/
def binding? (cs : List Char) : Option ((String × List String) × List Char) := do
  let (name, rest) ← name? cs
  match rest.dropWhile isBlank with
  | '=' :: rest =>
    match rest.dropWhile isBlank with
    | '[' :: rest =>
      let (texts, rest) ← strings? rest
      let rest ← lineRest? rest
      return ((name, texts), rest)
    | _ => none
  | _ => none

theorem length_strings? {cs rest : List Char} {texts : List String} (read : strings? cs = some (texts, rest)) :
    rest.length ≤ cs.length := by
  fun_induction strings? cs generalizing texts with
  | case1 => cases read
  | case2 _ _ skipped =>
    cases read
    have := length_skipSpace? skipped
    simp only [List.length_cons] at this; omega
  | case3 => cases read
  | case4 _ _ _ skipped _ _ one _ skipped' ih =>
    obtain ⟨⟨_, _⟩, inner, same⟩ := Option.map_eq_some_iff.mp read
    cases same
    have := ih inner
    have := length_skipSpace? skipped
    have := length_string? one
    have := length_skipSpace? skipped'
    simp only [List.length_cons] at *; omega
  | case5 _ _ _ skipped _ _ one _ skipped' =>
    cases read
    have := length_skipSpace? skipped
    have := length_string? one
    have := length_skipSpace? skipped'
    simp only [List.length_cons] at *; omega
  | case6 => cases read

theorem length_name? {cs rest : List Char} {name : String} (read : name? cs = some (name, rest)) :
    rest.length ≤ cs.length := by
  unfold name? at read
  split at read
  · exact Nat.le_of_lt (length_lineString? read)
  · cases read
    exact (List.dropWhile_sublist isBare).length_le

theorem length_lineRest? {cs rest : List Char} (read : lineRest? cs = some rest) : rest.length ≤ cs.length := by
  have shorter := (List.dropWhile_sublist isBlank (l := cs)).length_le
  unfold lineRest? at read
  split at read
  · cases read; simp
  next same => cases read; rw [same] at shorter; exact shorter
  · have := length_afterLineEnd? read; omega

theorem length_binding? {cs rest : List Char} {bound : String × List String}
    (read : binding? cs = some (bound, rest)) : rest.length < cs.length := by
  obtain ⟨⟨name, left⟩, named, read⟩ := Option.bind_eq_some_iff.mp read
  have := length_name? named
  have blanks := (List.dropWhile_sublist isBlank (l := left)).length_le
  dsimp only at read
  split at read
  next left' same =>
    rw [same] at blanks
    have blanks' := (List.dropWhile_sublist isBlank (l := left')).length_le
    split at read
    next left'' same' =>
      rw [same'] at blanks'
      obtain ⟨⟨texts, left'''⟩, listed, read⟩ := Option.bind_eq_some_iff.mp read
      obtain ⟨_, ended, read⟩ := Option.bind_eq_some_iff.mp read
      cases read
      have := length_strings? listed
      have := length_lineRest? ended
      simp only [List.length_cons] at *; omega
    · cases read
  · cases read

/-- The bindings of a text, in order. -/
def bindings? (cs : List Char) : Option (List (String × List String)) :=
  match _skipped : skipSpace? false cs with
  | none => none
  | some [] => some []
  | some (c :: rest) =>
    match _one : binding? (c :: rest) with
    | none => none
    | some (bound, rest) => (bindings? rest).map (bound :: ·)
termination_by cs.length
decreasing_by
  have := length_skipSpace? _skipped
  have := length_binding? _one
  omega

/-- The bindings of a file, each name bound once. -/
def lists? (text : String) : Option (List (String × List String)) := do
  let cs := match text.toList with
    | '\ufeff' :: rest => rest
    | cs => cs
  let bound ← bindings? cs
  if (bound.map Prod.fst).Nodup then some bound else none

end SignatureLint.Toml
