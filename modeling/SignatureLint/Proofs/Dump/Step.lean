import SignatureLint.Dump.Stream
import SignatureLint.Proofs.Dump.Shape

/-!
# What one line does to a reader

Every line is counted. What else a line does is told by its shape and by the class that is open, and
`Effect` lists it: which class is open after the line, under which line numbers the line reports problems,
and which class it hands out. `Reader.feed_effect` says that each line has one of these effects, so that
what holds of all runs of a reader is shown effect by effect.
-/

namespace SignatureLint

/-! ## Lines are counted -/

namespace Reader

theorem take_of_version?_eq_none {r : Reader} {line : Line} (unnamed : line.version? = none) :
    r.take line = { r with line := line.number }.feedLine line := by
  rw [take, unnamed]

theorem take_of_version?_eq_some {r : Reader} {line : Line} {version : List Char}
    (names : line.version? = some version) :
    r.take line = ({ r with line := line.number }.setFormat line version, none) := by
  rw [take, names]

theorem feed_of_version?_eq_none {r : Reader} {text : String}
    (unnamed : (Line.ofText (r.line + 1) text).version? = none) :
    r.feed text = { r with line := r.line + 1 }.feedLine (Line.ofText (r.line + 1) text) := by
  rw [feed, take_of_version?_eq_none unnamed, Line.number_ofText]

theorem feed_of_version?_eq_some {r : Reader} {text : String} {version : List Char}
    (names : (Line.ofText (r.line + 1) text).version? = some version) :
    r.feed text = ({ r with line := r.line + 1 }.setFormat (Line.ofText (r.line + 1) text) version, none) := by
  rw [feed, take_of_version?_eq_some names, Line.number_ofText]

theorem line_setFormat (r : Reader) (line : Line) (version : List Char) :
    (r.setFormat line version).line = r.line := by
  unfold setFormat
  split
  · rfl
  · rfl

theorem line_openPackage (r : Reader) (line : Line) : (r.openPackage line).line = r.line := by
  unfold openPackage
  split
  · rfl
  · rfl

theorem line_dropOpen (r : Reader) : r.dropOpen.line = r.line := by
  unfold dropOpen
  split
  · rfl
  · rfl

theorem line_openClass (r : Reader) (line : Line) : (r.openClass line).line = r.line := by
  unfold openClass
  dsimp only
  split
  · exact line_dropOpen r
  · exact line_dropOpen r

theorem line_addMember (r : Reader) (line : Line) (add : Class → Except DeclarationError Class) :
    (r.addMember line add).line = r.line := by
  unfold addMember
  split
  · split
    · rfl
    · rfl
  · rfl
  · rfl

theorem line_close (r : Reader) : r.close.1.line = r.line := by
  unfold close
  split
  · rfl
  · rfl

theorem line_feedLine (r : Reader) (line : Line) : (r.feedLine line).1.line = r.line := by
  unfold feedLine
  cases line.shape with
  | package => exact line_openPackage r line
  | header => exact line_openClass r line
  | method => exact line_addMember r line _
  | field => exact line_addMember r line _
  | close => exact line_close r
  | other => rfl

/-- What a reader counts is what the line has for a number. -/
theorem line_take (r : Reader) (line : Line) : (r.take line).1.line = line.number := by
  unfold take
  dsimp only
  split
  · exact line_setFormat _ _ _
  · exact line_feedLine _ _

/-- Every line is counted. -/
theorem line_feed (r : Reader) (text : String) : (r.feed text).1.line = r.line + 1 := by
  rw [feed, line_take, Line.number_ofText]

theorem line_feed_pos (r : Reader) (text : String) : 0 < (r.feed text).1.line := by
  rw [line_feed]
  exact Nat.succ_pos _

theorem feedAll_cons (r : Reader) (line : String) (lines : List String) :
    r.feedAll (line :: lines) =
      (((r.feed line).1.feedAll lines).1, (r.feed line).2.toList ++ ((r.feed line).1.feedAll lines).2) := rfl

theorem feedAll_append (r : Reader) (lines later : List String) :
    r.feedAll (lines ++ later) =
      (((r.feedAll lines).1.feedAll later).1, (r.feedAll lines).2 ++ ((r.feedAll lines).1.feedAll later).2) := by
  induction lines generalizing r with
  | nil => rfl
  | cons line lines ih =>
    rw [List.cons_append, feedAll_cons, feedAll_cons, ih]
    simp only [List.append_assoc]

/-- One more line. -/
theorem feedAll_snoc (r : Reader) (lines : List String) (line : String) :
    r.feedAll (lines ++ [line]) =
      (((r.feedAll lines).1.feed line).1, (r.feedAll lines).2 ++ ((r.feedAll lines).1.feed line).2.toList) := by
  rw [feedAll_append, feedAll_cons, feedAll, List.append_nil]

theorem line_feedAll (r : Reader) (lines : List String) : (r.feedAll lines).1.line = r.line + lines.length := by
  induction lines generalizing r with
  | nil => rfl
  | cons line lines ih =>
    rw [feedAll_cons, ih, line_feed, List.length_cons]
    omega

end Reader

/-! ## Effects -/

/-- The number of the line that the class is declared on. -/
def Class.headerLine (c : Class) : Nat := c.origin.line

/-- The class that is open, if one is. -/
def Scope.current? : Scope → Option Class
  | .inside c => some c
  | _ => none

/-- The line numbers under which problems are reported. -/
def Reader.reported (r : Reader) : List Nat := r.diagnostics.map Diagnostic.line

/-- The class with one member more, which the line declares. -/
inductive Adds (line : Line) (c : Class) : Class → Prop where
  | method {m : Method} :
    line.MethodShaped → m.origin = line.origin → Adds line c { c with methods := c.methods ++ [m] }
  | field {d : Field} :
    line.FieldShaped → d.origin = line.origin → Adds line c { c with fields := c.fields ++ [d] }

/-- What a line does: it leads from one scope to another, reports problems under these line numbers, and
hands out a class or none. -/
inductive Effect (line : Line) : Scope → Scope → List Nat → Option Class → Prop where
  /-- The line says nothing of classes. -/
  | pass {scope : Scope} {reported : List Nat} :
    line.Plain → (reported = [] ∨ reported = [line.number]) → Effect line scope scope reported none
  /-- A class that was open is dropped and reported. -/
  | opened {scope : Scope} {c : Class} :
    line.HeaderShaped → c.origin = line.origin → c.methods = [] → c.fields = [] →
      Effect line scope (.inside c) (scope.current?.toList.map Class.headerLine) none
  | failed {scope : Scope} :
    line.HeaderShaped →
      Effect line scope .skipping (scope.current?.toList.map Class.headerLine ++ [line.number]) none
  | added {c c' : Class} : Adds line c c' → Effect line (.inside c) (.inside c') [] none
  /-- A member that cannot be read. -/
  | unread {c : Class} : line.MemberShaped → Effect line (.inside c) (.inside c) [line.number] none
  | stray : line.MemberShaped → Effect line .outside .outside [line.number] none
  | skipped : line.MemberShaped → Effect line .skipping .skipping [] none
  | ended {scope : Scope} :
    line.EndShaped → ¬ line.HeaderShaped → Effect line scope .outside [] scope.current?

namespace Reader

/-- The step has one of the effects of the line, and keeps what was reported. -/
def Leads (line : Line) (r : Reader) (step : Reader × Option Class) : Prop :=
  ∃ reported, step.1.reported = r.reported ++ reported ∧ Effect line r.scope step.1.scope reported step.2

variable {r : Reader} {line : Line}

theorem reported_report (problem : Problem) : (r.report line problem).reported = r.reported ++ [line.number] := by
  rw [reported, report, List.map_append]
  rfl

theorem reported_dropOpen :
    r.dropOpen.reported = r.reported ++ r.scope.current?.toList.map Class.headerLine := by
  unfold dropOpen
  cases r.scope with
  | outside => exact (List.append_nil _).symm
  | inside c => exact List.map_append
  | skipping => exact (List.append_nil _).symm

theorem origin_of_readClass {c : Class} (read : r.readClass line = .ok c) :
    c.origin = line.origin ∧ c.methods = [] ∧ c.fields = [] := by
  unfold readClass at read
  split at read
  next package _ =>
    unfold Class.read at read
    cases h : ClassHeader.read r.format line with
    | error e =>
      rw [h] at read
      cases read
    | ok header =>
      rw [h] at read
      cases read
      exact ⟨rfl, rfl, rfl⟩
  next => cases read

theorem origin_of_readMethod {c : Class} {m : Method} (read : Method.read c line = .ok m) :
    m.origin = line.origin := by
  unfold Method.read at read
  cases h : MethodSignature.read c.format c.isAnnotationType line with
  | error e =>
    rw [h] at read
    cases read
  | ok signature =>
    rw [h] at read
    cases read
    rfl

theorem origin_of_readField {c : Class} {d : Field} (read : Field.read c line = .ok d) : d.origin = line.origin := by
  unfold Field.read at read
  cases h : FieldSignature.read c.format line with
  | error e =>
    rw [h] at read
    cases read
  | ok signature =>
    rw [h] at read
    cases read
    rfl

theorem leads_setFormat (plain : line.Plain) (version : List Char) :
    Leads line r (r.setFormat line version, none) := by
  unfold setFormat
  split
  · exact ⟨[], (List.append_nil _).symm, .pass plain (.inl rfl)⟩
  · exact ⟨[line.number], reported_report _, .pass plain (.inr rfl)⟩

theorem leads_openPackage (plain : line.Plain) : Leads line r (r.openPackage line, none) := by
  unfold openPackage
  split
  · exact ⟨[], (List.append_nil _).symm, .pass plain (.inl rfl)⟩
  · exact ⟨[line.number], reported_report _, .pass plain (.inr rfl)⟩

theorem leads_openClass (header : line.HeaderShaped) : Leads line r (r.openClass line, none) := by
  unfold openClass
  dsimp only
  cases read : r.dropOpen.readClass line with
  | ok c =>
    obtain ⟨origin, methods, fields⟩ := origin_of_readClass read
    exact ⟨_, reported_dropOpen, .opened header origin methods fields⟩
  | error problem =>
    refine ⟨_, ?_, .failed header⟩
    rw [← List.append_assoc, ← reported_dropOpen]
    exact reported_report problem

theorem leads_addMember (member : line.MemberShaped) {add : Class → Except DeclarationError Class}
    (adds : ∀ c c', add c = .ok c' → Adds line c c') :
    Leads line r (r.addMember line add, none) := by
  obtain ⟨file, count, format, package, scope, packages, diagnostics⟩ := r
  cases scope with
  | outside => exact ⟨[line.number], reported_report _, .stray member⟩
  | skipping => exact ⟨[], (List.append_nil _).symm, .skipped member⟩
  | inside c =>
    unfold addMember
    dsimp only
    cases read : add c with
    | ok c' => exact ⟨[], (List.append_nil _).symm, .added (adds c c' read)⟩
    | error e => exact ⟨[line.number], reported_report _, .unread member⟩

theorem leads_close (ends : line.EndShaped) (noHeader : ¬ line.HeaderShaped) : Leads line r r.close := by
  have step : r.close = ({ r with scope := .outside }, r.scope.current?) := by
    unfold close
    cases r.scope <;> rfl
  rw [step]
  exact ⟨[], (List.append_nil _).symm, .ended ends noHeader⟩

/-- Each line that names no format has one of the effects. -/
theorem leads_feedLine : Leads line r (r.feedLine line) := by
  unfold feedLine
  rcases line.shape_cases with
    ⟨shape, header⟩ | ⟨shape, method⟩ | ⟨shape, field⟩ | ⟨shape, ends, noHeader⟩ | ⟨shape, plain⟩
  · rw [shape]
    exact leads_openClass header
  · rw [shape]
    refine leads_addMember (Line.memberShaped_iff.mpr (.inl method)) ?_
    intro c c' added
    cases read : Method.read c line with
    | error e =>
      rw [read] at added
      cases added
    | ok m =>
      rw [read] at added
      cases added
      exact .method method (origin_of_readMethod read)
  · rw [shape]
    refine leads_addMember (Line.memberShaped_iff.mpr (.inr field)) ?_
    intro c c' added
    cases read : Field.read c line with
    | error e =>
      rw [read] at added
      cases added
    | ok d =>
      rw [read] at added
      cases added
      exact .field field (origin_of_readField read)
  · rw [shape]
    exact leads_close ends noHeader
  · rcases shape with package | other
    · rw [package]
      exact leads_openPackage plain
    · rw [other]
      exact ⟨[], (List.append_nil _).symm, .pass plain (.inl rfl)⟩

/-- **Each line has one of the effects.** -/
theorem feed_effect (r : Reader) (text : String) : Leads (Line.ofText (r.line + 1) text) r (r.feed text) := by
  unfold feed take
  dsimp only
  split
  next version names =>
    exact leads_setFormat (r := { r with line := _ }) (Line.plain_of_version? names) version
  next => exact leads_feedLine (r := { r with line := _ })

end Reader

end SignatureLint
