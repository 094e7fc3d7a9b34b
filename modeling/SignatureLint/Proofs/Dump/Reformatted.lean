import SignatureLint.Proofs.Dump.Rewritten

/-!
# A dump with single spaces

`Reader.respaceAll` writes lines of a dump anew, with their blame, their indentation and one space between two
tokens: any that one chooses among those that declare something. In format 2 nothing comes of it but the text
that is kept of these declarations (`drain_respaced`): a rewritten line leads readers that are alike
(`Reader.Matches`) to readers that are alike, and hands out like classes. So does any dump whose lines are
rewritten where the reader comes to them (`Reader.Rewrites`).
-/

namespace SignatureLint

/-- The lines, of which those that are chosen and declare something are written with single spaces. -/
def Reader.respaceAll (chosen : Nat → Bool) (r : Reader) : List String → List String
  | [] => []
  | text :: texts =>
    let written := if chosen (r.line + 1) && r.declares (.ofText (r.line + 1) text) then Line.respaced text else text
    written :: (r.feed text).1.respaceAll chosen texts

variable {chosen : Nat → Bool} {r s : Reader} {line line' : Line}

/-! ## Readers that are alike -/

namespace Reader

/-- All that the readers know is the same, but for the text of declarations on the chosen lines. -/
structure Matches (chosen : Nat → Bool) (r s : Reader) : Prop where
  alike : Alike (Origin.withoutRaw chosen) r s
  file : r.file = s.file
  line : r.line = s.line
  packages : r.packages.map (Package.withoutRaw chosen) = s.packages.map (Package.withoutRaw chosen)
  diagnostics : r.diagnostics.map (Diagnostic.withoutRaw chosen) = s.diagnostics.map (Diagnostic.withoutRaw chosen)

theorem Matches.refl (chosen : Nat → Bool) (r : Reader) : Matches chosen r r := ⟨.refl _ r, rfl, rfl, rfl, rfl⟩

variable (alike : Matches chosen r s)

include alike

theorem Matches.report (line : Line) (problem : Problem) :
    Matches chosen (r.report line problem) (s.report line problem) where
  alike := alike.alike.report problem problem
  file := alike.file
  line := alike.line
  packages := alike.packages
  diagnostics := by
    simp only [Reader.report, List.map_append, alike.diagnostics, alike.file]

theorem Matches.withScope {scope scope' : Scope}
    (same : scope.mapOrigin (Origin.withoutRaw chosen) = scope'.mapOrigin (Origin.withoutRaw chosen)) :
    Matches chosen { r with scope } { s with scope := scope' } :=
  ⟨alike.alike.withScope same, alike.file, alike.line, alike.packages, alike.diagnostics⟩

/-- A class that is dropped is reported alike. -/
theorem Matches.dropOpen : Matches chosen r.dropOpen s.dropOpen := by
  rcases Scope.mapOrigin_cases alike.alike.scope with ⟨hr, hs⟩ | ⟨hr, hs⟩ | ⟨c, d, hr, hs, same⟩
  · simpa only [Reader.dropOpen, hr, hs] using alike
  · simpa only [Reader.dropOpen, hr, hs] using alike
  · have dropped := alike.alike.dropOpen
    have fullname : c.fullname = d.fullname := (Class.members_alike same).2.2
    have origin : c.origin.withoutRaw chosen = d.origin.withoutRaw chosen := (congrArg Class.origin same :)
    have reported := Diagnostic.withoutRaw_unclosedClass s.file d.fullname origin
    simp only [Reader.dropOpen, hr, hs] at dropped ⊢
    refine ⟨dropped, alike.file, alike.line, alike.packages, ?_⟩
    simp only [List.map_append, alike.diagnostics, List.map_cons, List.map_nil, alike.file, fullname, reported]

theorem Matches.openPackage (rewritten : Line.Rewritten chosen r line line') (shape : line.shape = .package) :
    Matches chosen (r.openPackage line) (s.openPackage line') := by
  unfold Reader.openPackage
  rcases cases_of_map_eq rewritten.readPackage with ⟨e, hr, hs⟩ | ⟨package, package', hr, hs, same⟩
  · have fails : r.declares line = false := by simp only [Reader.declares, shape, hr, Except.isOk, Except.toBool]
    have reported := alike.report line (.declaration e)
    rw [rewritten.eq_of_error fails, hr]
    exact ⟨⟨reported.alike.format, rfl, reported.alike.scope⟩, reported.file, reported.line, reported.packages,
      reported.diagnostics⟩
  · have name : package.name = package'.name := (congrArg Package.name same :)
    rw [hr, hs]
    refine ⟨⟨alike.alike.format, congrArg some name, alike.alike.scope⟩, alike.file, alike.line, ?_,
      alike.diagnostics⟩
    simp only [List.map_append, alike.packages, List.map_cons, List.map_nil, same]

theorem Matches.openClass (inFormat2 : s.InFormat2) (rewritten : Line.Rewritten chosen r line line')
    (shape : line.shape = .header) : Matches chosen (r.openClass line) (s.openClass line') := by
  have dropped := alike.dropOpen
  have said : ClassHeader.read s.format line = ClassHeader.read s.format line' := by
    rw [inFormat2.format]
    exact rewritten.readHeader
  unfold Reader.openClass
  dsimp only
  rw [readClass_dropOpen, readClass_dropOpen]
  rcases cases_of_map_eq (alike.alike.readClass rewritten.origin said) with ⟨problem, hr, hs⟩ | ⟨c, d, hr, hs, like⟩
  · have fails : r.declares line = false := by simp only [Reader.declares, shape, hr, Except.isOk, Except.toBool]
    rw [hr, hs, rewritten.eq_of_error fails]
    exact (dropped.report line problem).withScope rfl
  · rw [hr, hs]
    exact dropped.withScope (congrArg Scope.inside like)

/-- Members that are read alike leave like classes open, and a line that adds none is as it was. -/
theorem Matches.addMember {add add' : Class → Except DeclarationError Class}
    (adds : ∀ c d : Class, s.scope.current? = some d → c.withoutRaw chosen = d.withoutRaw chosen →
      (add c).map (Class.withoutRaw chosen) = (add' d).map (Class.withoutRaw chosen))
    (unchanged : (∀ c, r.scope.current? = some c → (add c).isOk = false) → line' = line) :
    Matches chosen (r.addMember line add) (s.addMember line' add') := by
  rcases Scope.mapOrigin_cases alike.alike.scope with ⟨hr, hs⟩ | ⟨hr, hs⟩ | ⟨c, d, hr, hs, same⟩
  · have as := unchanged fun c current => by rw [hr] at current; cases current
    simp only [Reader.addMember, hr, hs, as]
    exact alike.report line .outsideClass
  · simpa only [Reader.addMember, hr, hs] using alike
  · simp only [Reader.addMember, hr, hs]
    rcases cases_of_map_eq (adds c d (by rw [hs]; rfl) same) with ⟨e, hc, hd⟩ | ⟨c', d', hc, hd, like⟩
    · have as : line' = line := by
        apply unchanged
        intro c' current
        rw [hr] at current
        rw [← Option.some.inj current, hc]
        rfl
      rw [hc, hd, as]
      exact alike.report line (.declaration e)
    · rw [hc, hd]
      exact alike.withScope (congrArg Scope.inside like)

/-- The class that ends is handed out alike. -/
theorem Matches.close :
    Matches chosen r.close.1 s.close.1 ∧
      r.close.2.map (Class.withoutRaw chosen) = s.close.2.map (Class.withoutRaw chosen) := by
  rcases Scope.mapOrigin_cases alike.alike.scope with ⟨hr, hs⟩ | ⟨hr, hs⟩ | ⟨c, d, hr, hs, same⟩
  · simp only [Reader.close, hr, hs]
    exact ⟨alike.withScope rfl, trivial⟩
  · simp only [Reader.close, hr, hs]
    exact ⟨alike.withScope rfl, trivial⟩
  · simp only [Reader.close, hr, hs]
    exact ⟨alike.withScope rfl, congrArg some same⟩

theorem Matches.inFormat2 (inFormat2 : r.InFormat2) : s.InFormat2 where
  format := alike.alike.format.symm.trans inFormat2.format
  current d current := by
    rcases Scope.mapOrigin_cases alike.alike.scope with ⟨hr, hs⟩ | ⟨hr, hs⟩ | ⟨c, d', hr, hs, same⟩
    · rw [hs] at current; cases current
    · rw [hs] at current; cases current
    · rw [hs] at current
      cases current
      rw [← (Class.members_alike same).1]
      exact inFormat2.current c (by rw [hr]; rfl)

/-- **A rewritten line leads readers that are alike to readers that are alike**, and hands out like classes. -/
theorem Matches.feedLine (inFormat2 : r.InFormat2) (rewritten : Line.Rewritten chosen r line line') :
    Matches chosen (r.feedLine line).1 (s.feedLine line').1 ∧
      (r.feedLine line).2.map (Class.withoutRaw chosen) = (s.feedLine line').2.map (Class.withoutRaw chosen) := by
  have inFormat2' := alike.inFormat2 inFormat2
  unfold Reader.feedLine
  rw [rewritten.shape]
  cases shape : line.shape with
  | package => exact ⟨alike.openPackage rewritten shape, rfl⟩
  | header => exact ⟨alike.openClass inFormat2' rewritten shape, rfl⟩
  | method =>
    refine ⟨alike.addMember ?_ ?_, rfl⟩
    · intro c d current same
      refine Class.map_alike _ _ (Method.read_alike_of_signature rewritten.origin same ?_) fun m m' =>
        Class.addMethod_alike same
      rw [inFormat2'.current d current]
      exact rewritten.readMethod _
    · intro fails
      apply rewritten.eq_of_error
      rw [Reader.declares, shape]
      exact any_isOk_eq_false fails
  | field =>
    refine ⟨alike.addMember ?_ ?_, rfl⟩
    · intro c d current same
      refine Class.map_alike _ _ (Field.read_alike_of_signature rewritten.origin same ?_) fun x x' =>
        Class.addField_alike same
      rw [inFormat2'.current d current]
      exact rewritten.readField
    · intro fails
      apply rewritten.eq_of_error
      rw [Reader.declares, shape]
      exact any_isOk_eq_false fails
  | close => exact alike.close
  | other => exact ⟨alike, rfl⟩

omit alike in
theorem format_of_readClass {c : Class} (read : r.readClass line = .ok c) : c.format = r.format := by
  unfold Reader.readClass at read
  split at read
  · obtain ⟨header, -, rfl⟩ := map_eq_ok.mp (mapError_eq_ok.mp read)
    rfl
  · cases read

omit alike in
/-- In format 2 every class that is opened is of format 2. -/
theorem Turn.inFormat2 {package : Option Package} {scope : Scope} {handed : Option Class}
    (turn : Turn r line package scope handed) (inFormat2 : r.InFormat2) :
    ∀ c, scope.current? = some c → c.format = .v2 := by
  cases turn with
  | opened read =>
    rintro _ ⟨⟩
    exact (format_of_readClass read).trans inFormat2.format
  | failed => exact fun c opened => (by cases opened)
  | @member c d scope same =>
    rintro _ ⟨⟩
    rw [← same]
    exact inFormat2.current c (by rw [scope]; rfl)
  | ended => exact fun c opened => (by cases opened)
  | _ => exact inFormat2.current

omit alike in
theorem InFormat2.feed (inFormat2 : r.InFormat2) (later : 0 < r.line) (text : String) : (r.feed text).1.InFormat2 where
  format := (format_feed (version?_eq_none later text)).trans inFormat2.format
  current := (feed_turn r text).inFormat2 inFormat2

/-- A line after the first, rewritten or not. -/
theorem Matches.feed (inFormat2 : r.InFormat2) (later : 0 < r.line) {text text' : String}
    (rewritten : Line.Rewritten chosen r (Line.ofText (r.line + 1) text) (Line.ofText (r.line + 1) text')) :
    Matches chosen (r.feed text).1 (s.feed text').1 ∧
      (r.feed text).2.map (Class.withoutRaw chosen) = (s.feed text').2.map (Class.withoutRaw chosen) := by
  have counted : Matches chosen { r with line := r.line + 1 } { s with line := r.line + 1 } :=
    ⟨alike.alike.withLine _ _, alike.file, rfl, alike.packages, alike.diagnostics⟩
  have later' : 0 < s.line := alike.line ▸ later
  rw [feed_of_version?_eq_none (version?_eq_none later text), feed_of_version?_eq_none (version?_eq_none later' text'),
    ← alike.line]
  exact counted.feedLine ⟨inFormat2.format, inFormat2.current⟩
    ⟨rewritten.number, rewritten.shape, rewritten.tokens, rewritten.origin, rewritten.same⟩

omit alike in
/-- The line that `respaceAll` writes. -/
theorem InFormat2.rewrittenLine (inFormat2 : r.InFormat2) (chosen : Nat → Bool) (text : String) :
    Line.Rewritten chosen r (Line.ofText (r.line + 1) text) (Line.ofText (r.line + 1)
      (if chosen (r.line + 1) && r.declares (Line.ofText (r.line + 1) text) then Line.respaced text else text)) := by
  split
  next both =>
    obtain ⟨isChosen, declares⟩ := Bool.and_eq_true_iff.mp both
    exact inFormat2.rewritten isChosen declares
  next => exact .refl chosen r _

/-- The texts, rewritten line by line where a reader comes to them. -/
inductive Rewrites (chosen : Nat → Bool) : Reader → List String → List String → Prop where
  | nil {r : Reader} : Rewrites chosen r [] []
  | line {r : Reader} {text text' : String} {texts texts' : List String} :
    Line.Rewritten chosen r (Line.ofText (r.line + 1) text) (Line.ofText (r.line + 1) text') →
      Rewrites chosen (r.feed text).1 texts texts' → Rewrites chosen r (text :: texts) (text' :: texts')

/-- **A run over lines of which some are rewritten** comes to the same. -/
theorem Matches.feedAll {texts texts' : List String} (inFormat2 : r.InFormat2) (later : 0 < r.line)
    (rewrites : Rewrites chosen r texts texts') :
    Matches chosen (r.feedAll texts).1 (s.feedAll texts').1 ∧
      (r.feedAll texts).2.map (Class.withoutRaw chosen) = (s.feedAll texts').2.map (Class.withoutRaw chosen) := by
  induction rewrites generalizing s with
  | nil => exact ⟨alike, rfl⟩
  | @line r text text' texts texts' rewritten others ih =>
    have fed := alike.feed inFormat2 later rewritten
    obtain ⟨left, handed⟩ := ih fed.1 (inFormat2.feed later text) (line_feed_pos r text)
    have ended := congrArg Option.toList fed.2
    rw [Option.toList_map, Option.toList_map] at ended
    refine ⟨left, ?_⟩
    rw [feedAll_cons, feedAll_cons, List.map_append, List.map_append, handed, ended]

omit alike in
theorem InFormat2.rewrites (inFormat2 : r.InFormat2) (later : 0 < r.line) (chosen : Nat → Bool) (texts : List String) :
    Rewrites chosen r texts (r.respaceAll chosen texts) := by
  induction texts generalizing r with
  | nil => exact .nil
  | cons text texts ih =>
    exact .line (inFormat2.rewrittenLine chosen text) (ih (inFormat2.feed later text) (line_feed_pos r text))

end Reader

/-! ## Dumps -/

namespace Line

/-- The line that names a format declares nothing. -/
theorem shape_of_version? {version : List Char} (names : line.version? = some version) : line.shape = .other := by
  have plain := plain_of_version? names
  have noPackage : line.startsWith "package" = false := by
    unfold version? at names
    split at names
    next first => exact startsWith_eq_false (Bool.and_eq_true_iff.mp first).2 (by decide)
    next => cases names
  rcases line.shape_cases with ⟨-, header⟩ | ⟨-, method⟩ | ⟨-, field⟩ | ⟨-, ends, -⟩ | ⟨package | other, -⟩
  · exact absurd header plain.noHeader
  · exact absurd (memberShaped_iff.mpr (.inl method)) plain.noMember
  · exact absurd (memberShaped_iff.mpr (.inr field)) plain.noMember
  · exact absurd ends plain.noEnd
  · simp only [shape, noPackage, Bool.false_eq_true, if_false] at package
    repeat' split at package
    all_goals cases package
  · exact other

end Line

namespace Reader

variable {file : String} {texts texts' : List String}

theorem scope_feed_of_version? {r : Reader} {text : String} {version : List Char}
    (names : (Line.ofText (r.line + 1) text).version? = some version) : (r.feed text).1.scope = r.scope := by
  rw [feed_of_version?_eq_some names]
  unfold setFormat
  dsimp only
  split <;> rfl

theorem declares_of_version? {version : List Char} (names : line.version? = some version) :
    r.declares line = false := by
  rw [Reader.declares, Line.shape_of_version? names]

/-- A dump is read in format 2 only if its first line names a format. -/
theorem exists_first (inFormat2 : ((start file).feedAll texts).1.format = .v2) :
    ∃ first rest version, texts = first :: rest ∧
      (Line.ofText ((start file).line + 1) first).version? = some version ∧ ((start file).feed first).1.InFormat2 := by
  cases texts with
  | nil => cases inFormat2
  | cons first rest =>
    rw [feedAll_cons, format_feedAll (line_feed_pos _ first)] at inFormat2
    cases names : (Line.ofText ((start file).line + 1) first).version? with
    | none =>
      have unnamed : (start file).format = .v2 := (format_feed names).symm.trans inFormat2
      cases unnamed
    | some version =>
      refine ⟨first, rest, version, rfl, names, inFormat2, ?_⟩
      rw [scope_feed_of_version? names]
      exact fun c opened => (by cases opened)

/-- What is known after a whole dump that is rewritten, and the classes that it handed out. -/
theorem matches_rewrites (inFormat2 : ((start file).feedAll texts).1.format = .v2)
    (rewrites : Rewrites chosen (start file) texts texts') :
    Matches chosen ((start file).feedAll texts).1 ((start file).feedAll texts').1 ∧
      ((start file).feedAll texts).2.map (Class.withoutRaw chosen) =
        ((start file).feedAll texts').2.map (Class.withoutRaw chosen) := by
  obtain ⟨first, rest, version, rfl, names, opened⟩ := exists_first inFormat2
  cases rewrites with
  | @line _ _ first' _ rest' rewritten others =>
    have same : (start file).feed first' = (start file).feed first := by
      rw [feed, feed, rewritten.eq_of_error (declares_of_version? names)]
    obtain ⟨left, handed⟩ := (Matches.refl chosen _).feedAll opened (line_feed_pos _ first) others
    rw [feedAll_cons, feedAll_cons, same, List.map_append, List.map_append, handed]
    exact ⟨left, rfl⟩

theorem rewrites_respaceAll (inFormat2 : ((start file).feedAll texts).1.format = .v2) (chosen : Nat → Bool) :
    Rewrites chosen (start file) texts ((start file).respaceAll chosen texts) := by
  obtain ⟨first, rest, version, rfl, names, opened⟩ := exists_first inFormat2
  rw [respaceAll, declares_of_version? names, Bool.and_false, if_neg Bool.false_ne_true]
  exact .line (.refl chosen _ _) (opened.rewrites (line_feed_pos _ first) chosen rest)

theorem matches_respaceAll (inFormat2 : ((start file).feedAll texts).1.format = .v2) (chosen : Nat → Bool) :
    Matches chosen ((start file).feedAll texts).1 ((start file).feedAll ((start file).respaceAll chosen texts)).1 ∧
      ((start file).feedAll texts).2.map (Class.withoutRaw chosen) =
        ((start file).feedAll ((start file).respaceAll chosen texts)).2.map
          (Class.withoutRaw chosen) :=
  matches_rewrites inFormat2 (rewrites_respaceAll inFormat2 chosen)

end Reader

/-- **Single spaces change nothing but texts.** Write any lines of a format 2 dump anew, each with its blame, the
indentation of its shape and one space between two tokens, as long as they declare a package, a class or a
member. The same classes are handed out and the same packages and diagnostics are left, but for the texts of
declarations on these lines. -/
theorem drain_respaced (file : String) (texts : List String) (chosen : Nat → Bool)
    (inFormat2 : (Stream.ofLines file texts).drain.2.format = .v2) :
    let before := (Stream.ofLines file texts).drain
    let after := (Stream.ofLines file ((Reader.start file).respaceAll chosen texts)).drain
    after.1.map (Class.withoutRaw chosen) = before.1.map (Class.withoutRaw chosen) ∧
      after.2.packages.map (Package.withoutRaw chosen) = before.2.packages.map (Package.withoutRaw chosen) ∧
      after.2.diagnostics.map (Diagnostic.withoutRaw chosen) = before.2.diagnostics.map (Diagnostic.withoutRaw chosen) ∧
      after.2.format = before.2.format := by
  rw [Stream.ofLines, Stream.drain_eq] at inFormat2
  have read : ((Reader.start file).feedAll texts).1.format = .v2 := (Reader.format_dropOpen _).symm.trans inFormat2
  obtain ⟨alike, handed⟩ := Reader.matches_respaceAll read chosen
  have finished := alike.dropOpen
  dsimp only
  rw [Stream.ofLines, Stream.ofLines, Stream.drain_eq, Stream.drain_eq]
  exact ⟨handed.symm, finished.packages.symm, finished.diagnostics.symm, finished.alike.format.symm⟩

/-- A dump with blames, wide spaces and comments. -/
def wideLines : List String := [
  "// Signature format: 2.0",
  "0a1b2c3 (<ann> 2019) package  p\t\x7b // first",
  "0a1b2c3 (<ann> 2019)   public\tclass X  \x7b // \x7b",
  "    field public static final int[ ] K=-1;",
  "    method  public void f( String ...s );//",
  "  \x7d"]

/-- The same dump with single spaces. -/
def narrowLines : List String := [
  "// Signature format: 2.0",
  "0a1b2c3 (<ann> 2019) package p \x7b",
  "0a1b2c3 (<ann> 2019)   public class X \x7b",
  "    field public static final int [] K = -1 ;",
  "    method public void f ( String ... s ) ;",
  "  \x7d"]

/-- Brackets, signs, dots and comments come out as they went in. -/
theorem drain_respaced_wideLines :
    let chosen : Nat → Bool := fun _ => true
    (Stream.ofLines "api.txt" wideLines).drain.2.format = .v2 ∧
      (Reader.start "api.txt").respaceAll chosen wideLines = narrowLines ∧
      (Stream.ofLines "api.txt" narrowLines).drain.1.map Class.fullname = ["p.X"] ∧
      (Stream.ofLines "api.txt" narrowLines).drain.1.map (Class.withoutRaw chosen) =
        (Stream.ofLines "api.txt" wideLines).drain.1.map (Class.withoutRaw chosen) := by
  have inFormat2 : (Stream.ofLines "api.txt" wideLines).drain.2.format = .v2 := by
    rw [Stream.ofLines, Stream.drain_eq]
    decide +kernel
  have written : (Reader.start "api.txt").respaceAll (fun _ => true) wideLines = narrowLines := by decide +kernel
  have handed : (Stream.ofLines "api.txt" narrowLines).drain.1.map Class.fullname = ["p.X"] := by
    rw [Stream.ofLines, Stream.drain_eq]
    decide +kernel
  have respaced := (drain_respaced "api.txt" wideLines (fun _ => true) inFormat2).1
  rw [written] at respaced
  exact ⟨inFormat2, written, handed, respaced⟩

end SignatureLint
