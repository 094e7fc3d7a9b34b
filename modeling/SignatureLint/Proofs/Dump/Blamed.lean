import SignatureLint.Proofs.Dump.BlameText

/-!
# Blames decide nothing

Blames are written before any lines of a dump. The dump is read as before, but that what is declared on these
lines has the blame that stands there (`drain_written`). Reading commutes with a change of origins that keeps
their numbers and texts (`Reader.mapOrigin`): line by line (`Reader.feed_mapOrigin`), and so over all lines
(`Reader.feedAll_writeBlames`).
-/

namespace SignatureLint

/-- The package with its origin changed. -/
def Package.mapOrigin (f : Origin → Origin) (p : Package) : Package := { p with origin := f p.origin }

/-- The reader with the origins of all that it has read changed. -/
def Reader.mapOrigin (f : Origin → Origin) (r : Reader) : Reader :=
  { r with
    package := r.package.map (Package.mapOrigin f)
    scope := r.scope.mapOrigin f
    packages := r.packages.map (Package.mapOrigin f) }

/-- What a line comes to, with origins changed. -/
def Reader.mapStep (f : Origin → Origin) (step : Reader × Option Class) : Reader × Option Class :=
  (step.1.mapOrigin f, step.2.map (Class.mapOrigin f))

/-- The change keeps what diagnostics show of an origin. -/
def Origin.KeepsPlace (f : Origin → Origin) : Prop := ∀ o, (f o).line = o.line ∧ (f o).raw = o.raw

/-- The second line says what the first says; its origin is the changed one. -/
structure Line.MovedTo (f : Origin → Origin) (line line' : Line) : Prop where
  number : line'.number = line.number
  text : line'.text = line.text
  origin : line'.origin = f line.origin

variable {f : Origin → Origin} {line line' : Line} {r : Reader}

/-! ## One line -/

section

variable (moved : line.MovedTo f line')

include moved

theorem Package.read_mapOrigin : Package.read line' = (Package.read line).map (Package.mapOrigin f) := by
  unfold Package.read
  rw [show line'.tokens = line.tokens by rw [Line.tokens, Line.tokens, moved.text], moved.origin]
  cases line.tokens with
  | error e => rfl
  | ok tokens =>
    show readTokens Grammar.packageHeader tokens >>= _ =
      Except.map (Package.mapOrigin f) (readTokens Grammar.packageHeader tokens >>= _)
    cases readTokens Grammar.packageHeader tokens <;> rfl

theorem Class.read_mapOrigin (p : Package) (format : Format) :
    Class.read (p.mapOrigin f) format line' = (Class.read p format line).map (Class.mapOrigin f) := by
  unfold Class.read
  rw [ClassHeader.read_congr moved.text, moved.origin]
  cases ClassHeader.read format line <;> rfl

theorem Method.read_mapOrigin (c : Class) :
    Method.read (c.mapOrigin f) line' = (Method.read c line).map (Method.mapOrigin f) := by
  unfold Method.read
  rw [MethodSignature.read_congr moved.text, moved.origin]
  show Except.map _ (MethodSignature.read c.format c.isAnnotationType line) = _
  cases MethodSignature.read c.format c.isAnnotationType line <;> rfl

theorem Field.read_mapOrigin (c : Class) :
    Field.read (c.mapOrigin f) line' = (Field.read c line).map (Field.mapOrigin f) := by
  unfold Field.read
  rw [FieldSignature.read_congr moved.text, moved.origin]
  show Except.map _ (FieldSignature.read c.format line) = _
  cases FieldSignature.read c.format line <;> rfl

namespace Reader

theorem report_mapOrigin (problem : Problem) :
    (r.mapOrigin f).report line' problem = (r.report line problem).mapOrigin f := by
  rw [report, report, moved.number, moved.text]
  rfl

theorem setFormat_mapOrigin (version : List Char) :
    (r.mapOrigin f).setFormat line' version = (r.setFormat line version).mapOrigin f := by
  unfold setFormat
  rw [report_mapOrigin moved]
  split <;> rfl

theorem openPackage_mapOrigin : (r.mapOrigin f).openPackage line' = (r.openPackage line).mapOrigin f := by
  unfold openPackage
  rw [Package.read_mapOrigin moved]
  cases Package.read line with
  | ok p =>
    simp only [Except.map, mapOrigin, List.map_append, List.map_cons, List.map_nil, Option.map_some]
  | error e =>
    dsimp only [Except.map]
    rw [report_mapOrigin moved]
    rfl

theorem readClass_mapOrigin :
    (r.mapOrigin f).readClass line' = (r.readClass line).map (Class.mapOrigin f) := by
  unfold readClass
  rw [mapOrigin]
  dsimp only
  cases r.package with
  | none => rfl
  | some p =>
    dsimp only [Option.map_some]
    rw [Class.read_mapOrigin moved]
    cases Class.read p r.format line <;> rfl

/-- A member is added as before, if what is added is changed alike. -/
theorem addMember_mapOrigin {add add' : Class → Except DeclarationError Class}
    (adds : ∀ c, add' (c.mapOrigin f) = (add c).map (Class.mapOrigin f)) :
    (r.mapOrigin f).addMember line' add' = (r.addMember line add).mapOrigin f := by
  have reported := @report_mapOrigin f line line' r moved
  unfold addMember
  have scope : (r.mapOrigin f).scope = r.scope.mapOrigin f := rfl
  rw [scope]
  cases r.scope with
  | outside => exact reported _
  | skipping => rfl
  | inside c =>
    dsimp only [Scope.mapOrigin]
    rw [adds]
    cases add c with
    | ok c => rfl
    | error e => exact reported _

variable (keeps : Origin.KeepsPlace f)

include keeps

omit moved in
theorem dropOpen_mapOrigin : (r.mapOrigin f).dropOpen = r.dropOpen.mapOrigin f := by
  unfold dropOpen
  have scope : (r.mapOrigin f).scope = r.scope.mapOrigin f := rfl
  rw [scope]
  cases r.scope with
  | outside => rfl
  | skipping => rfl
  | inside c =>
    obtain ⟨number, raw⟩ := keeps c.origin
    have shown : (c.mapOrigin f).origin = f c.origin := rfl
    dsimp only [Scope.mapOrigin]
    rw [shown, number, raw]
    rfl

theorem openClass_mapOrigin : (r.mapOrigin f).openClass line' = (r.openClass line).mapOrigin f := by
  unfold openClass
  rw [dropOpen_mapOrigin keeps]
  dsimp only
  rw [readClass_mapOrigin moved]
  cases r.dropOpen.readClass line with
  | ok c => rfl
  | error problem =>
    dsimp only [Except.map]
    rw [report_mapOrigin moved]
    rfl

omit moved keeps in
theorem close_mapOrigin : (r.mapOrigin f).close = mapStep f r.close := by
  unfold close
  have scope : (r.mapOrigin f).scope = r.scope.mapOrigin f := rfl
  rw [scope]
  cases r.scope <;> rfl

theorem feedLine_mapOrigin : (r.mapOrigin f).feedLine line' = mapStep f (r.feedLine line) := by
  unfold feedLine
  rw [Line.shape_congr moved.text]
  cases line.shape with
  | package => exact congrArg (·, none) (openPackage_mapOrigin moved)
  | header => exact congrArg (·, none) (openClass_mapOrigin moved keeps)
  | method =>
    refine congrArg (·, none) (addMember_mapOrigin moved fun c => ?_)
    rw [Method.read_mapOrigin moved]
    cases Method.read c line with
    | ok m => exact congrArg Except.ok (Class.mapOrigin_addMethod c m).symm
    | error e => rfl
  | field =>
    refine congrArg (·, none) (addMember_mapOrigin moved fun c => ?_)
    rw [Field.read_mapOrigin moved]
    cases Field.read c line with
    | ok d => exact congrArg Except.ok (Class.mapOrigin_addField c d).symm
    | error e => rfl
  | close => exact close_mapOrigin
  | other => rfl

end Reader

end

namespace Reader

/-- **A line that says the same comes to the same**, with origins changed. -/
theorem feed_mapOrigin (keeps : Origin.KeepsPlace f) {text text' : String}
    (moved : (Line.ofText (r.line + 1) text).MovedTo f (Line.ofText (r.line + 1) text')) :
    (r.mapOrigin f).feed text' = mapStep f (r.feed text) := by
  have version : (Line.ofText (r.line + 1) text').version? = (Line.ofText (r.line + 1) text).version? := by
    rw [Line.version?, Line.version?, Line.startsWith, Line.startsWith, moved.number, moved.text]
  cases names : (Line.ofText (r.line + 1) text).version? with
  | some v =>
    rw [feed_of_version?_eq_some names, feed_of_version?_eq_some (r := r.mapOrigin f) (version.trans names)]
    exact congrArg (·, none) (setFormat_mapOrigin (r := { r with line := r.line + 1 }) moved v)
  | none =>
    rw [feed_of_version?_eq_none names, feed_of_version?_eq_none (r := r.mapOrigin f) (version.trans names)]
    exact feedLine_mapOrigin (r := { r with line := r.line + 1 }) moved keeps

end Reader

/-! ## Blames before lines -/

/-- The line, with the blame before it that is written there, if one is. -/
def writeBlame (blame : Option BlameText) (text : String) : String :=
  match blame with
  | some b => b.toString ++ text
  | none => text

/-- The lines from number `n` on, with the blames before them that are written there. -/
def writeBlames (written : Nat → Option BlameText) (n : Nat) : List String → List String
  | [] => []
  | text :: texts => writeBlame (written n) text :: writeBlames written (n + 1) texts

/-- The origin, with the blame that is written before its line. -/
def Origin.withBlame (written : Nat → Option BlameText) (o : Origin) : Origin :=
  match written o.line with
  | some b => { o with blame := some b.blame }
  | none => o

theorem Origin.keepsPlace_withBlame (written : Nat → Option BlameText) : KeepsPlace (withBlame written) := by
  intro o
  unfold withBlame
  split <;> exact ⟨rfl, rfl⟩

section

variable {written : Nat → Option BlameText} (wellFormed : ∀ n, ∀ b ∈ written n, b.WellFormed)

include wellFormed

/-- A line before which a blame is written says what it said. -/
theorem Line.movedTo_writeBlame {n : Nat} {text : String} (filled : trimmed text ≠ [])
    (noBlame : Blame.split? (trimmed text) = none) :
    (ofText n text).MovedTo (Origin.withBlame written) (ofText n (writeBlame (written n) text)) := by
  have number : (ofText n text).origin.line = n := number_ofText n text
  cases blamed : written n with
  | none =>
    rw [← number] at blamed
    refine ⟨rfl, rfl, ?_⟩
    rw [Origin.withBlame, blamed]
    rfl
  | some b =>
    have line : ofText n (writeBlame (some b) text) = { ofText n text with blame := some b.blame } :=
      ofText_written (wellFormed n b blamed) n filled noBlame
    rw [line]
    rw [← number] at blamed
    refine ⟨rfl, rfl, ?_⟩
    rw [Origin.withBlame, blamed]
    rfl

namespace Reader

theorem feed_writeBlame (r : Reader) {text : String} (noBlame : Blame.split? (trimmed text) = none) :
    (r.mapOrigin (Origin.withBlame written)).feed (writeBlame (written (r.line + 1)) text) =
      mapStep (Origin.withBlame written) (r.feed text) := by
  by_cases blank : trimmed text = []
  · -- a blank line is no line to the reader, and a blame alone is none either
    have passed : (r.mapOrigin (Origin.withBlame written)).feed (writeBlame (written (r.line + 1)) text) =
        ({ r.mapOrigin (Origin.withBlame written) with line := r.line + 1 }, none) := by
      cases blamed : written (r.line + 1) with
      | none => exact feed_blank _ blank
      | some b => exact feed_written_blank (wellFormed _ b blamed) _ blank
    rw [passed, feed_blank r blank]
    rfl
  · exact feed_mapOrigin (Origin.keepsPlace_withBlame written) (Line.movedTo_writeBlame wellFormed blank noBlame)

theorem feedAll_writeBlames (r : Reader) {texts : List String}
    (noBlames : ∀ text ∈ texts, Blame.split? (trimmed text) = none) :
    (r.mapOrigin (Origin.withBlame written)).feedAll (writeBlames written (r.line + 1) texts) =
      ((r.feedAll texts).1.mapOrigin (Origin.withBlame written),
        (r.feedAll texts).2.map (Class.mapOrigin (Origin.withBlame written))) := by
  induction texts generalizing r with
  | nil => rfl
  | cons text texts ih =>
    have rest := ih (r.feed text).1 fun later mem => noBlames later (List.mem_cons_of_mem _ mem)
    rw [line_feed] at rest
    rw [writeBlames, feedAll_cons, feedAll_cons, feed_writeBlame wellFormed r (noBlames text List.mem_cons_self)]
    dsimp only [mapStep]
    rw [rest, List.map_append, Option.toList_map]

end Reader

end

/-! ## Dumps -/

/-- **Blames are transparent.** Write blames before any lines of a dump that has none. Class by class it is handed
out as it was, and at its end all is known that was known: the format, the packages, and the diagnostics with their
lines and texts. What is declared on a line before which a blame is written has that blame, and nothing else is
changed. -/
theorem drain_written (file : String) {texts : List String} {written : Nat → Option BlameText}
    (noBlames : ∀ text ∈ texts, Blame.split? (Text.trimEnd text.toList) = none)
    (wellFormed : ∀ n, ∀ b ∈ written n, b.WellFormed) :
    let before := (Stream.ofLines file texts).drain
    let after := (Stream.ofLines file (writeBlames written 1 texts)).drain
    after.1 = before.1.map (Class.mapOrigin (Origin.withBlame written)) ∧
      after.2.packages = before.2.packages.map (Package.mapOrigin (Origin.withBlame written)) ∧
      after.2.format = before.2.format ∧ after.2.diagnostics = before.2.diagnostics := by
  have read := Reader.feedAll_writeBlames wellFormed (Reader.start file) noBlames
  have start : (Reader.start file).mapOrigin (Origin.withBlame written) = Reader.start file := rfl
  rw [start] at read
  have counted : (Reader.start file).line + 1 = 1 := rfl
  rw [counted] at read
  dsimp only
  rw [Stream.ofLines, Stream.ofLines, Stream.drain_eq, Stream.drain_eq, read, Reader.finish, Reader.finish,
    Reader.dropOpen_mapOrigin (Origin.keepsPlace_withBlame written)]
  exact ⟨rfl, rfl, rfl, rfl⟩

/-- A dump without blames: it has blank lines, a member that cannot be read, and a class without an end. -/
def unblamedLines : List String := [
  "// Signature format: 2.0",
  "package p \x7b",
  "  public class X \x7b ",
  "    field public int F = (1) ; // (<x>) ",
  " \t",
  "    method public void g(;",
  "  \x7d",
  "  class Y \x7b"]

/-- A blame with brackets, blanks and other letters than ASCII ones. -/
def bracketBlame : BlameText := ⟨"0a1b2c3", "Zoë (<z@x", ")(é)-2019)"⟩

/-- The blame is written before all lines but the fourth, which declares a field. -/
def writtenBlames (n : Nat) : Option BlameText := if n = 4 then none else some bracketBlame

/-- The class has the blame, its field has none, and the two diagnostics are what they were. -/
theorem drain_written_bracketBlame :
    (∀ text ∈ unblamedLines, Blame.split? (Text.trimEnd text.toList) = none) ∧
      (∀ n, ∀ b ∈ writtenBlames n, b.WellFormed) ∧
      ((Stream.ofLines "api.txt" (writeBlames writtenBlames 1 unblamedLines)).drain.1.map fun c =>
          (c.fullname, c.origin.blame, c.fields.map (·.origin.blame))) =
        [("p.X", some ⟨"0a1b2c3", "Zoë (<z@x"⟩, [none])] ∧
      ((Stream.ofLines "api.txt" (writeBlames writtenBlames 1 unblamedLines)).drain.2.diagnostics.map fun d =>
          (d.line, d.raw)) = [(6, "method public void g(;"), (8, "class Y")] := by
  have noBlames : ∀ text ∈ unblamedLines, Blame.split? (Text.trimEnd text.toList) = none := by decide +kernel
  have wellFormed : ∀ n, ∀ b ∈ writtenBlames n, b.WellFormed := by
    intro n b mem
    unfold writtenBlames at mem
    split at mem
    · cases mem
    · cases mem
      have digits : ∀ c ∈ bracketBlame.commit.toList, BlameText.isHexDigit c = true := List.all_eq_true.mp (by decide)
      exact ⟨⟨by decide, digits⟩, by decide +kernel, ⟨')', "(é)-2019)".toList, by decide +kernel, by decide⟩,
        by decide +kernel⟩
  obtain ⟨classes, -, -, diagnostics⟩ := drain_written "api.txt" noBlames wellFormed
  refine ⟨noBlames, wellFormed, ?_, ?_⟩
  · rw [classes, Stream.ofLines, Stream.drain_eq]
    decide +kernel
  · rw [diagnostics, Stream.ofLines, Stream.drain_eq]
    decide +kernel

end SignatureLint
