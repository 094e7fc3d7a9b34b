import SignatureLint.Grammar.Member
import SignatureLint.Proofs.Grammar.Type

/-!
# Dotted types as they are written

A written type is made of segments with a dot between two of them. Annotations may stand before a segment, type
arguments behind it, and array dimensions behind the last one. A dot is a letter of words: it joins the names on
its two sides into one word unless arguments stand before it or annotations behind it. So the tokens of a written
type (`DottedType.tokens`) are not those of its segments one after another.

The reader takes one word for the name of a type, and one more where the first ends in a dot. That is all of the
name if no dot has arguments before it and at most one has annotations behind it. Of every other type it reads a
part, without an error, and leaves a word of the type as the next token. `type_dotted_iff` says both, and
`type_dotted_misread` shows the two ways to leave a word behind.
-/

namespace SignatureLint.Grammar

/-! ## The written form -/

/-- Arguments between their brackets, if there are any. -/
def groupTokens (opening closing : Char) : Option (List Token) → List Token
  | none => []
  | some inner => .punct opening :: (inner ++ [.punct closing])

/-- A written annotation. -/
structure Annotation where
  name : String
  arguments : Option (List Token)
  balanced : ∀ inner ∈ arguments, Balanced (.punct '(') (.punct ')') inner

def Annotation.tokens (a : Annotation) : List Token := .atSign :: .word a.name :: groupTokens '(' ')' a.arguments

/-- A name between two dots, with the annotations before it and the type arguments behind it. -/
structure Segment where
  annotations : List Annotation
  name : String
  arguments : Option (List Token)
  filled : name ≠ ""
  undotted : '.' ∉ name.toList
  balanced : ∀ inner ∈ arguments, Balanced (.punct '<') (.punct '>') inner

/-- A written type. -/
structure DottedType where
  first : Segment
  more : List Segment
  dimensions : Nat

/-- A piece of a written type: letters, or tokens that are in no word with what is next to them. -/
inductive Piece where
  | letters (text : String)
  | tokens (ts : List Token)

/-- The word of these letters, if there are any. -/
def wordTokens (letters : String) : List Token := if letters = "" then [] else [.word letters]

/-- The tokens of some pieces that stand behind letters. Letters next to each other are in one word. -/
def glue (letters : String) : List Piece → List Token
  | [] => wordTokens letters
  | .letters text :: pieces => glue (letters ++ text) pieces
  | .tokens ts :: pieces => wordTokens letters ++ (ts ++ glue "" pieces)

def annotationTokens (annotations : List Annotation) : List Token := annotations.flatMap Annotation.tokens

namespace Segment

/-- What is written behind the name. -/
def closing (s : Segment) : List Piece :=
  if s.arguments = none then [] else [.tokens (groupTokens '<' '>' s.arguments)]

/-- What is written from the name on. -/
def body (s : Segment) : List Piece := .letters s.name :: s.closing

def pieces (s : Segment) : List Piece := s.annotations.map (fun a => .tokens a.tokens) ++ s.body

/-- The dot between the two segments is in one word with both names. -/
def Joins (s t : Segment) : Prop := s.arguments = none ∧ t.annotations = []

end Segment

/-- The pieces of segments that stand behind another one. -/
def behind (more : List Segment) : List Piece := more.flatMap fun s => .letters "." :: s.pieces

/-- Of the dots behind the segments, none has arguments before it, and at most `n` have annotations behind them. -/
def Plain (n : Nat) (s : Segment) (more : List Segment) : Prop :=
  (∀ u ∈ (s :: more).dropLast, u.arguments = none) ∧ more.countP (fun u => u.annotations ≠ []) ≤ n

/-- What comes after the segments and dimensions of a type does not go on with it. -/
def Ends (segments : List Segment) (dimensions : Nat) (rest : List Token) : Prop :=
  (∀ t ∈ suffixStarts, rest.head? ≠ some t) ∧
    (dimensions = 0 → (∀ s ∈ segments.getLast?, s.arguments = none) → rest.head? ≠ some (.punct '<'))

namespace DottedType

variable (r : DottedType)

def segments : List Segment := r.first :: r.more

def names : List String := r.segments.map (·.name)

def tokens : List Token := glue "" (r.first.pieces ++ behind r.more) ++ List.replicate r.dimensions .array

/-- The type, without its annotations and arguments. -/
def text : String := withDimensions (qualify (".".intercalate r.names)) r.dimensions

/-- What comes after the type does not go on with it. -/
def EndsBefore (rest : List Token) : Prop := Ends r.segments r.dimensions rest

/-- No dot has arguments before it, and at most one has annotations behind it. -/
def IsRead : Prop := Plain 1 r.first r.more

end DottedType

/-- The reading of tokens that say these names ends behind some of them, and leaves a word as the next token. -/
def LeavesWord (ts : List Token) (names : List String) (rest : List Token) : Prop :=
  ∃ named missed : List String, named ≠ [] ∧ missed ≠ [] ∧ named ++ missed = names ∧
    ∃ dot ∈ ["", "."], ∃ word left,
      type ts = .ok (qualify (".".intercalate named ++ dot), .word word :: (left ++ rest))

/-! ## Words of a written type -/

/-- The segments whose names are in one word: from the first one on as long as the dots join them. Their names,
the one with which the word ends, and those behind it. -/
inductive Run : Segment → List Segment → List String → Segment → List Segment → Prop where
  | stop {s : Segment} {left : List Segment} : (∀ t ∈ left.head?, ¬ s.Joins t) → Run s left [s.name] s left
  | goOn {s t last : Segment} {more left : List Segment} {names : List String} :
    s.Joins t → Run t more names last left → Run s (t :: more) (s.name :: names) last left

section

variable {s t : Segment} {more : List Segment} {n : Nat}

theorem plain_nil (n : Nat) (s : Segment) : Plain n s [] := ⟨by simp, by simp⟩

theorem not_plain_of_arguments (given : s.arguments ≠ none) : ¬ Plain n s (t :: more) :=
  fun plain => given (plain.1 s List.mem_cons_self)

theorem plain_succ_iff (bare : s.arguments = none) (annotated : t.annotations ≠ []) :
    Plain (n + 1) s (t :: more) ↔ Plain n t more := by
  rw [Plain, List.dropLast_cons_cons, List.forall_mem_cons, and_iff_right bare,
    List.countP_cons_of_pos (by simpa using annotated), Nat.add_le_add_iff_right]
  rfl

theorem not_plain_zero (annotated : t.annotations ≠ []) : ¬ Plain 0 s (t :: more) := by
  rintro ⟨-, few⟩
  rw [List.countP_cons_of_pos (by simpa using annotated)] at few
  omega

end

theorem exists_run (s : Segment) (more : List Segment) : ∃ names last left, Run s more names last left := by
  induction more generalizing s with
  | nil => exact ⟨_, _, _, .stop nofun⟩
  | cons t more ih =>
    by_cases joins : s.Joins t
    · obtain ⟨names, last, left, run⟩ := ih t
      exact ⟨_, _, _, .goOn joins run⟩
    · exact ⟨_, _, _, .stop fun _ next => Option.some.inj next ▸ joins⟩

namespace Run

variable {s last t : Segment} {more left : List Segment} {names : List String}

theorem ends (run : Run s more names last left) : ∀ t ∈ left.head?, ¬ last.Joins t := by
  induction run with
  | stop apart => exact apart
  | goOn _ _ ih => exact ih

theorem names_ne_nil (run : Run s more names last left) : names ≠ [] := by
  cases run <;> exact List.cons_ne_nil _ _

theorem names_append (run : Run s more names last left) :
    names ++ left.map (·.name) = (s :: more).map (·.name) := by
  induction run with
  | stop => rfl
  | goOn _ _ ih => rw [List.cons_append, ih]; rfl

/-- A word ends with the last character of a name. -/
theorem getLast?_word (run : Run s more names last left) :
    ∃ c, (".".intercalate names).toList.getLast? = some c ∧ c ≠ '.' := by
  induction run with
  | @stop s =>
    have filled : s.name.toList ≠ [] := fun empty => s.filled (String.toList_eq_nil_iff.mp empty)
    rw [String.intercalate_singleton, List.getLast?_eq_some_getLast filled]
    exact ⟨_, rfl, fun same => s.undotted (same ▸ List.getLast_mem filled)⟩
  | goOn _ run ih =>
    obtain ⟨c, ends, apart⟩ := ih
    rw [String.intercalate_cons_of_ne_nil run.names_ne_nil, String.toList_append, List.getLast?_append, ends]
    exact ⟨c, rfl, apart⟩

theorem word_ne_empty (run : Run s more names last left) : ".".intercalate names ≠ "" := by
  intro empty
  obtain ⟨c, ends, -⟩ := run.getLast?_word
  rw [empty] at ends
  cases ends

/-- Within a word there are neither arguments nor annotations. -/
theorem plain_iff (run : Run s more names last left) (n : Nat) : Plain n s more ↔ Plain n last left := by
  induction run with
  | stop => rfl
  | goOn joins _ ih =>
    rw [← ih, Plain, List.dropLast_cons_cons, List.forall_mem_cons, and_iff_right joins.1,
      List.countP_cons_of_neg (by simpa using joins.2)]
    rfl

theorem getLast?_eq (run : Run s more names last left) : (s :: more).getLast? = (last :: left).getLast? := by
  induction run with
  | stop => rfl
  | goOn _ _ ih => rw [List.getLast?_cons_cons, ih]

/-- The letters of a run are one word, up to what stands behind its last name. -/
theorem glue_eq (run : Run s more names last left) (letters : String) :
    glue letters (s.body ++ behind more) =
      glue (letters ++ ".".intercalate names) (last.closing ++ behind left) := by
  induction run generalizing letters with
  | stop => rw [String.intercalate_singleton]; rfl
  | @goOn s t last more left names joins run ih =>
    rw [String.intercalate_cons_of_ne_nil run.names_ne_nil, ← String.append_assoc, ← String.append_assoc, ← ih]
    have unargued : s.closing = [] := if_pos joins.1
    have plain : t.pieces = t.body := by rw [Segment.pieces, joins.2]; rfl
    rw [Segment.body, unargued, behind, List.flatMap_cons, plain]
    rfl

theorem getLast?_word_ne (run : Run s more names last left) : (".".intercalate names).toList.getLast? ≠ some '.' := by
  obtain ⟨c, ends, apart⟩ := run.getLast?_word
  rw [ends]
  exact fun same => apart (Option.some.inj same)

end Run

/-! ## Tokens of a written type -/

theorem glue_annotations {annotations : List Annotation} {letters : String}
    (parted : annotations ≠ [] ∨ letters = "") (pieces : List Piece) :
    glue letters (annotations.map (fun a => .tokens a.tokens) ++ pieces) =
      wordTokens letters ++ (annotationTokens annotations ++ glue "" pieces) := by
  induction annotations generalizing letters with
  | nil =>
    obtain rfl := parted.resolve_left (fun filled => filled rfl)
    rfl
  | cons a annotations ih =>
    have first : annotationTokens (a :: annotations) = a.tokens ++ annotationTokens annotations := List.flatMap_cons
    rw [List.map_cons, List.cons_append, glue, ih (.inr rfl), first, List.append_assoc]
    rfl

/-- Letters are in the next token. -/
theorem exists_glue {letters : String} (filled : letters ≠ "") (pieces : List Piece) :
    ∃ word left, glue letters pieces = .word word :: left := by
  induction pieces generalizing letters with
  | nil => exact ⟨letters, [], if_neg filled⟩
  | cons piece pieces ih =>
    cases piece with
    | letters text => exact ih (by simp [filled])
    | tokens ts => exact ⟨letters, _, by rw [glue, wordTokens, if_neg filled]; rfl⟩

theorem Segment.exists_glue_body (s : Segment) (pieces : List Piece) :
    ∃ word left, glue "" (s.body ++ pieces) = .word word :: left := by
  have named : "" ++ s.name ≠ "" := by rw [String.empty_append]; exact s.filled
  exact exists_glue named (s.closing ++ pieces)

namespace Run

variable {s last t : Segment} {more left : List Segment} {names : List String}

/-- The word is the last one. -/
theorem glue_ended (run : Run s more names last []) :
    glue "" (s.body ++ behind more) = .word (".".intercalate names) :: groupTokens '<' '>' last.arguments := by
  rw [run.glue_eq, String.empty_append, Segment.closing]
  split
  next bare =>
    rw [bare]
    exact if_neg run.word_ne_empty
  next =>
    change wordTokens _ ++ (_ ++ []) = _
    rw [wordTokens, if_neg run.word_ne_empty, List.append_nil]
    rfl

/-- The word ends with arguments, and the dot behind them is in the next word. -/
theorem glue_arguments (run : Run s more names last (t :: left)) (given : last.arguments ≠ none) :
    ∃ word rest, glue "" (s.body ++ behind more) =
      .word (".".intercalate names) :: (groupTokens '<' '>' last.arguments ++ .word word :: rest) := by
  have dot : "." ≠ "" := by decide
  obtain ⟨word, rest, next⟩ := exists_glue dot (t.pieces ++ behind left)
  refine ⟨word, rest, ?_⟩
  rw [run.glue_eq, String.empty_append, Segment.closing, if_neg given]
  change wordTokens _ ++ (_ ++ glue "." (t.pieces ++ behind left)) = _
  rw [wordTokens, if_neg run.word_ne_empty, next]
  rfl

/-- The word ends with a dot that has annotations behind it. -/
theorem glue_annotated (run : Run s more names last (t :: left)) (bare : last.arguments = none) :
    t.annotations ≠ [] ∧ glue "" (s.body ++ behind more) =
      .word (".".intercalate names ++ ".") :: (annotationTokens t.annotations ++ glue "" (t.body ++ behind left)) := by
  have annotated : t.annotations ≠ [] := fun plain => run.ends t rfl ⟨bare, plain⟩
  refine ⟨annotated, ?_⟩
  rw [run.glue_eq, String.empty_append, Segment.closing, if_pos bare]
  change glue (_ ++ ".") (t.pieces ++ behind left) = _
  rw [Segment.pieces, List.append_assoc, glue_annotations (.inl annotated), wordTokens, if_neg (by simp)]
  rfl

end Run

/-! ## Phrases of a written type -/

theorem optionalGroup_written {opening closing : Char} {arguments : Option (List Token)} {rest : List Token}
    (balanced : ∀ inner ∈ arguments, Balanced (.punct opening) (.punct closing) inner)
    (apart : arguments = none → rest.head? ≠ some (.punct opening)) :
    OptionalGroup (.punct opening) (.punct closing) (groupTokens opening closing arguments ++ rest) rest := by
  cases arguments with
  | none => exact .none (apart rfl)
  | some inner =>
    rw [groupTokens, List.cons_append, List.append_assoc]
    exact .group (balanced inner rfl)

theorem Annotation.phrase (a : Annotation) {rest : List Token} (apart : rest.head? ≠ some (.punct '(')) :
    AnnotationPhrase (.word a.name :: (groupTokens '(' ')' a.arguments ++ rest)) ("@" ++ a.name) rest :=
  .named (optionalGroup_written a.balanced fun _ => apart)

section

variable (annotations : List Annotation) (word : String) (rest : List Token)

/-- Annotations before a word open no group. -/
theorem head?_annotations_ne (c : Char) :
    (annotationTokens annotations ++ .word word :: rest).head? ≠ some (.punct c) := by
  cases annotations <;> simp [annotationTokens, Annotation.tokens]

theorem annotationTokens_cons (a : Annotation) :
    annotationTokens (a :: annotations) ++ .word word :: rest = .atSign :: .word a.name ::
      (groupTokens '(' ')' a.arguments ++ (annotationTokens annotations ++ .word word :: rest)) := by
  simp [annotationTokens, Annotation.tokens]

theorem annotationPhrases_written :
    AnnotationPhrases (annotationTokens annotations ++ .word word :: rest) (annotations.map fun a => "@" ++ a.name)
      (.word word :: rest) := by
  induction annotations with
  | nil => exact .done nofun
  | cons a annotations ih =>
    rw [annotationTokens_cons]
    exact .more (a.phrase (head?_annotations_ne annotations word rest '(')) ih

/-- Annotations behind a type are suffixes, and say nothing. -/
theorem suffixPhrases_annotations :
    SuffixPhrases (annotationTokens annotations ++ .word word :: rest) 0 (.word word :: rest) := by
  induction annotations with
  | nil => exact .done (by simp [annotationTokens, suffixStarts])
  | cons a annotations ih =>
    rw [annotationTokens_cons]
    exact .more (.annotated (a.phrase (head?_annotations_ne annotations word rest '('))) ih

end

theorem suffixPhrases_dimensions {rest : List Token} (ends : ∀ t ∈ suffixStarts, rest.head? ≠ some t) (n : Nat) :
    SuffixPhrases (List.replicate n .array ++ rest) n rest := by
  induction n with
  | zero => exact .done ends
  | succ n ih =>
    rw [List.replicate_succ, List.cons_append, Nat.add_comm]
    exact .more .array ih

/-- What comes behind the name of a type. -/
def TypeEnd : Phrase Nat := fun ts dimensions rest =>
  ∃ suffixed, OptionalGroup (.punct '<') (.punct '>') ts suffixed ∧ SuffixPhrases suffixed dimensions rest

section

variable {rest : List Token} {dimensions : Nat}

/-- A type ends behind its last segment and its dimensions. -/
theorem typeEnd_ended (s : Segment) (ends : Ends [s] dimensions rest) :
    TypeEnd (groupTokens '<' '>' s.arguments ++ (List.replicate dimensions .array ++ rest)) dimensions rest := by
  refine ⟨_, optionalGroup_written s.balanced fun bare => ?_, suffixPhrases_dimensions ends.1 dimensions⟩
  cases dimensions with
  | zero => exact ends.2 rfl (by simpa using bare)
  | succ => simp [List.replicate_succ]

/-- It ends before a word, behind arguments, -/
theorem typeEnd_arguments (s : Segment) (word : String) (rest : List Token) :
    TypeEnd (groupTokens '<' '>' s.arguments ++ .word word :: rest) 0 (.word word :: rest) :=
  ⟨_, optionalGroup_written s.balanced fun _ => by simp, .done (by simp [suffixStarts])⟩

/-- and behind annotations. -/
theorem typeEnd_annotations (annotations : List Annotation) (word : String) (rest : List Token) :
    TypeEnd (annotationTokens annotations ++ .word word :: rest) 0 (.word word :: rest) :=
  ⟨_, .none (head?_annotations_ne annotations word rest '<'), suffixPhrases_annotations annotations word rest⟩

end

theorem type_of_end (annotations : List Annotation) {name : String} {ts after rest : List Token} {dimensions : Nat}
    (named : NamePhrase ts name after) (ending : TypeEnd after dimensions rest) :
    type (annotationTokens annotations ++ ts) = .ok (withDimensions (qualify name) dimensions, rest) := by
  obtain ⟨suffixed, arguments, suffixes⟩ := ending
  have annotated :
      AnnotationPhrases (annotationTokens annotations ++ ts) (annotations.map fun a => "@" ++ a.name) ts := by
    cases named <;> exact annotationPhrases_written annotations _ _
  exact type_eq_ok.mpr (.type annotated named arguments suffixes)

/-- The tokens of a type up to its second word: a first word that ends in a dot, and annotations. -/
def dottedStart (annotations : List Annotation) (names : List String) (between : List Annotation) : List Token :=
  annotationTokens annotations ++ .word (".".intercalate names ++ ".") :: annotationTokens between

/-- A word of names, with what stands behind it. -/
theorem intercalate_word (before : List String) {names : List String} (filled : names ≠ []) (dot : String) :
    ".".intercalate (before ++ [".".intercalate names ++ dot]) = ".".intercalate (before ++ names) ++ dot := by
  cases before with
  | nil => exact String.intercalate_singleton
  | cons first before =>
    have front : first :: before ≠ [] := List.cons_ne_nil _ _
    rw [String.intercalate_append_of_ne_nil front filled, String.append_assoc,
      String.intercalate_append_of_ne_nil front (List.cons_ne_nil _ _), String.intercalate_singleton]

/-- The second word ends the name, whatever it ends with. -/
theorem type_of_end_second (annotations between : List Annotation) {names : List String} (filled : names ≠ [])
    (word : String) {after rest : List Token} {dimensions : Nat} (ending : TypeEnd after dimensions rest) :
    type (dottedStart annotations names between ++ .word word :: after) =
      .ok (withDimensions (qualify (".".intercalate (names ++ [word]))) dimensions, rest) := by
  rw [dottedStart, List.append_assoc, List.cons_append,
    String.intercalate_append_of_ne_nil filled (List.cons_ne_nil _ _), String.intercalate_singleton]
  exact type_of_end annotations (.continued (by simp) (annotationPhrases_written between word after)) ending

/-! ## The reading -/

/-- Behind `start`, which says the names `before`, a word of further names is the last one of the name. -/
def Opens (start : List Token) (before : List String) : Prop :=
  ∀ {names : List String} {after rest : List Token} {dimensions : Nat}, names ≠ [] →
    (".".intercalate names).toList.getLast? ≠ some '.' → TypeEnd after dimensions rest →
      type (start ++ .word (".".intercalate names) :: after) =
        .ok (withDimensions (qualify (".".intercalate (before ++ names))) dimensions, rest)

theorem opens_first (annotations : List Annotation) : Opens (annotationTokens annotations) [] :=
  fun _ undotted ending => type_of_end annotations (.whole undotted) ending

theorem opens_second (annotations between : List Annotation) {before : List String} (filled : before ≠ []) :
    Opens (dottedStart annotations before between) before := by
  intro names after rest dimensions filled' _ ending
  have whole := intercalate_word before filled' ""
  rw [String.append_empty, String.append_empty] at whole
  rw [type_of_end_second annotations between filled _ ending, whole]

/-- The tokens from `start` on, with the segments from `s` on behind it. -/
def tokensFrom (start : List Token) (s : Segment) (more : List Segment) (dimensions : Nat) (rest : List Token) :
    List Token :=
  start ++ (glue "" (s.body ++ behind more) ++ (List.replicate dimensions .array ++ rest))

/-- Segments with at most `n` annotated dots are read, and the reading ends within all others. -/
def IsReadUpTo (n : Nat) (start : List Token) (before : List String) (s : Segment) (more : List Segment)
    (dimensions : Nat) (rest : List Token) : Prop :=
  (Plain n s more → type (tokensFrom start s more dimensions rest) =
      .ok (withDimensions (qualify (".".intercalate (before ++ (s :: more).map (·.name)))) dimensions, rest)) ∧
    (¬ Plain n s more →
      LeavesWord (tokensFrom start s more dimensions rest) (before ++ (s :: more).map (·.name)) rest)

section

variable {s last : Segment} {more left : List Segment} {start rest : List Token} {before names : List String}
  {n dimensions : Nat}

/-- A reading that ends with a run leaves a word, if there are segments behind it. -/
theorem Run.leavesWord {t : Segment} {ts : List Token} {dot : String}
    (run : Run s more names last (t :: left)) (listed : dot ∈ ["", "."]) (word : String) (others : List Token)
    (read : type ts =
      .ok (withDimensions (qualify (".".intercalate (before ++ names) ++ dot)) 0, .word word :: (others ++ rest))) :
    LeavesWord ts (before ++ (s :: more).map (·.name)) rest := by
  have flat (name : String) : withDimensions name 0 = name := String.append_empty
  rw [flat] at read
  have named : before ++ names ≠ [] := List.append_ne_nil_of_right_ne_nil _ run.names_ne_nil
  have spelled : before ++ names ++ (t :: left).map (·.name) = before ++ (s :: more).map (·.name) := by
    rw [List.append_assoc, run.names_append]
  exact ⟨before ++ names, _, named, List.cons_ne_nil _ _, spelled, dot, listed, word, others, read⟩

/-- Segments are read by their first word, if that does not end with an annotated dot. -/
theorem isReadUpTo_of_opens (opens : Opens start before) (ends : Ends (s :: more) dimensions rest)
    (run : Run s more names last left)
    (goesOn : ∀ t left', left = t :: left' → last.arguments = none →
      IsReadUpTo n start before s more dimensions rest) :
    IsReadUpTo n start before s more dimensions rest := by
  cases left with
  | nil =>
    have spelled := run.names_append
    rw [Ends, run.getLast?_eq] at ends
    refine ⟨fun _ => ?_, fun other => absurd (run.plain_iff n |>.mpr (plain_nil n last)) other⟩
    rw [List.map_nil, List.append_nil] at spelled
    rw [tokensFrom, run.glue_ended, ← spelled]
    exact opens run.names_ne_nil run.getLast?_word_ne (typeEnd_ended last ends)
  | cons t left =>
    by_cases given : last.arguments = none
    · exact goesOn t left rfl given
    -- the arguments end the type, and the dot behind them starts a word
    refine ⟨fun plain => absurd (run.plain_iff n |>.mp plain) (not_plain_of_arguments given), fun _ => ?_⟩
    obtain ⟨word, others, glued⟩ := run.glue_arguments given
    have read := opens run.names_ne_nil run.getLast?_word_ne
      (typeEnd_arguments last word (others ++ List.replicate dimensions .array ++ rest))
    have dot : "" ∈ ["", "."] := by decide
    refine run.leavesWord dot word (others ++ List.replicate dimensions .array) ?_
    rw [tokensFrom, glued, String.append_empty]
    simpa using read

theorem isReadUpTo_second (annotations between : List Annotation) (filled : before ≠ [])
    (ends : Ends (s :: more) dimensions rest) :
    IsReadUpTo 0 (dottedStart annotations before between) before s more dimensions rest := by
  obtain ⟨names, last, left, run⟩ := exists_run s more
  refine isReadUpTo_of_opens (opens_second annotations between filled) ends run ?_
  rintro t left rfl bare
  obtain ⟨annotated, glued⟩ := run.glue_annotated bare
  obtain ⟨word, others, next⟩ := t.exists_glue_body (behind left)
  refine ⟨fun plain => absurd (run.plain_iff 0 |>.mp plain) (not_plain_zero annotated), fun _ => ?_⟩
  have read := type_of_end_second annotations between filled (".".intercalate names ++ ".")
    (typeEnd_annotations t.annotations word (others ++ List.replicate dimensions .array ++ rest))
  rw [intercalate_word before run.names_ne_nil] at read
  have dot : "." ∈ ["", "."] := by decide
  refine run.leavesWord dot word (others ++ List.replicate dimensions .array) ?_
  rw [tokensFrom, glued, next]
  simpa using read

/-- A first word that ends with an annotated dot is not the last one. -/
theorem isReadUpTo_first (annotations : List Annotation) (ends : Ends (s :: more) dimensions rest) :
    IsReadUpTo 1 (annotationTokens annotations) [] s more dimensions rest := by
  obtain ⟨names, last, left, run⟩ := exists_run s more
  refine isReadUpTo_of_opens (opens_first annotations) ends run ?_
  rintro t left rfl bare
  obtain ⟨annotated, glued⟩ := run.glue_annotated bare
  rw [Ends, run.getLast?_eq, List.getLast?_cons_cons] at ends
  have second := isReadUpTo_second annotations t.annotations run.names_ne_nil ends
  -- the same tokens, with the first word and the annotations behind it as their start
  have same : tokensFrom (annotationTokens annotations) s more dimensions rest =
      tokensFrom (dottedStart annotations names t.annotations) t left dimensions rest := by
    rw [tokensFrom, tokensFrom, dottedStart, glued]
    simp
  rw [IsReadUpTo, run.plain_iff, plain_succ_iff bare annotated, same, List.nil_append, ← run.names_append]
  exact second

end

theorem DottedType.tokens_append (r : DottedType) (rest : List Token) :
    r.tokens ++ rest = tokensFrom (annotationTokens r.first.annotations) r.first r.more r.dimensions rest := by
  have pieces : r.first.pieces ++ behind r.more =
      r.first.annotations.map (fun a => .tokens a.tokens) ++ (r.first.body ++ behind r.more) := List.append_assoc ..
  rw [tokens, pieces, glue_annotations (.inr rfl), tokensFrom, wordTokens, if_pos rfl]
  simp

/-- **A written type is read whole just where no dot has arguments before it and at most one has annotations behind
it.** Its annotations and arguments then say nothing, and all of it is read. Any other type is read without an error
too, but only behind some of its names, and a word of it is the next token. -/
theorem type_dotted_iff {r : DottedType} {rest : List Token} (ends : r.EndsBefore rest) :
    (type (r.tokens ++ rest) = .ok (r.text, rest) ↔ r.IsRead) ∧
      (¬ r.IsRead → LeavesWord (r.tokens ++ rest) r.names rest) := by
  obtain ⟨read, left⟩ := isReadUpTo_first r.first.annotations ends
  rw [← r.tokens_append] at read left
  refine ⟨⟨fun whole => ?_, read⟩, left⟩
  refine Classical.byContradiction fun others => ?_
  obtain ⟨_, _, -, -, -, _, -, word, between, part⟩ := left others
  rw [whole] at part
  have longer := congrArg List.length (Prod.mk.inj (Except.ok.inj part)).2
  simp at longer
  omega

/-! ## Types that are read, and types that are not -/

def Segment.ofName (name : String) (filled : name ≠ "") (undotted : '.' ∉ name.toList) : Segment where
  annotations := []
  name := name
  arguments := none
  filled := filled
  undotted := undotted
  balanced := nofun

/-- An annotation without arguments. -/
def Annotation.ofName (name : String) : Annotation where
  name := name
  arguments := none
  balanced := nofun

def nestedType : DottedType where
  first := .ofName "java" (by decide) (by decide)
  more := [
    .ofName "util" (by decide) (by decide),
    { Segment.ofName "Map" (by decide) (by decide) with
      annotations := [
        .ofName "A",
        { name := "B"
          arguments := some [.word "x"]
          balanced := by rintro _ ⟨⟩; exact .other nofun nofun .nil }] },
    { Segment.ofName "Entry" (by decide) (by decide) with
      arguments := some [.word "K", .punct ',', .word "V", .array]
      balanced := by
        rintro _ ⟨⟩
        exact .other nofun nofun (.other (by decide) (by decide) (.other nofun nofun (.other nofun nofun .nil))) }]
  dimensions := 2

theorem type_dotted_iff_nested :
    tokenize "java.util.@A @B(x) Map.Entry<K, V[]>[][] entries".toList =
        .ok (nestedType.tokens ++ [.word "entries"]) ∧
      nestedType.EndsBefore [.word "entries"] ∧
      type (nestedType.tokens ++ [.word "entries"]) = .ok ("java.util.Map.Entry[][]", [.word "entries"]) := by
  have ends : nestedType.EndsBefore [.word "entries"] := ⟨by decide, by decide⟩
  have read : nestedType.IsRead := ⟨by decide, by decide⟩
  have whole := (type_dotted_iff ends).1.mpr read
  have told : nestedType.text = "java.util.Map.Entry[][]" := by decide +kernel
  rw [told] at whole
  exact ⟨eq_ok_of_toOption (by decide +kernel), ends, whole⟩

/-- A type with arguments before a dot. -/
def outerArguments : DottedType where
  first := {
    Segment.ofName "Outer" (by decide) (by decide) with
    arguments := some [.word "String"]
    balanced := by rintro _ ⟨⟩; exact .other nofun nofun .nil }
  more := [.ofName "Inner" (by decide) (by decide)]
  dimensions := 0

/-- A type with annotations behind two dots. -/
def annotatedTwice : DottedType where
  first := .ofName "a" (by decide) (by decide)
  more := [
    { Segment.ofName "b" (by decide) (by decide) with annotations := [.ofName "A"] },
    { Segment.ofName "C" (by decide) (by decide) with annotations := [.ofName "B"] }]
  dimensions := 0

/-- A word that is left behind is read as the name of a parameter, or as one more supertype. -/
theorem type_dotted_misread :
    (tokenize "Outer<String>.Inner,".toList = .ok (outerArguments.tokens ++ [.punct ',']) ∧
      outerArguments.EndsBefore [.punct ','] ∧ outerArguments.text = "Outer.Inner" ∧
      type (outerArguments.tokens ++ [.punct ',']) = .ok ("Outer", [.word ".Inner", .punct ',']) ∧
      parameter (outerArguments.tokens ++ [.punct ',']) =
        .ok ({ type := "Outer", name := some ".Inner", annotations := [], value := none }, [.punct ','])) ∧
    (tokenize "a.@A b.@B C\x7b".toList = .ok (annotatedTwice.tokens ++ [.punct '{']) ∧
      annotatedTwice.EndsBefore [.punct '{'] ∧ annotatedTwice.text = "a.b.C" ∧
      type (annotatedTwice.tokens ++ [.punct '{']) = .ok ("a.b.", [.word "C", .punct '{']) ∧
      typeList (annotatedTwice.tokens ++ [.punct '{']) = .ok (["a.b.", "C"], [.punct '{'])) := by
  refine ⟨⟨eq_ok_of_toOption (by decide +kernel), ⟨by decide, by decide⟩, by decide +kernel, ?_, ?_⟩,
    eq_ok_of_toOption (by decide +kernel), ⟨by decide, by decide⟩, by decide +kernel, ?_, ?_⟩
  all_goals exact eq_ok_of_toOption (by decide +kernel)

end SignatureLint.Grammar
