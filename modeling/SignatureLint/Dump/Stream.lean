import SignatureLint.Dump.Diagnostic
import SignatureLint.Dump.Reading
import SignatureLint.Text.Lines

/-!
# Reading a dump line by line

A `Reader` is what is known after some lines of a dump: the format, the package and the class that
are open, and what has been read and complained of so far. `Reader.feed` takes one line and hands out
the class that the line ends, if it ends one; `Reader.finish` takes the end of the dump. A line that
cannot be read gives a diagnostic and changes nothing else but what it would have opened: a failed
package line leaves no package open, and the members after a failed class header are passed over in
silence until the next header or end of a class.

`Dump.contents` reads a whole dump at once; `Stream.next` hands out one class at a time, and comes to
the same (`Stream.drain_eq`).
-/

namespace SignatureLint

/-- The class that members belong to. -/
inductive Scope where
  /-- No class is open. -/
  | outside
  | inside (current : Class)
  /-- The header of the class here could not be read. -/
  | skipping
deriving DecidableEq

/-- What is known after some lines of a dump. -/
structure Reader where
  /-- The name of the dump's file. -/
  file : String
  /-- The number of the last line, zero before the first. The lines are counted here as far as there are any; a
  program's counter has 32 bits, and `Overflow` says what comes of a dump with more lines than that. -/
  line : Nat
  format : Format
  package : Option Package
  scope : Scope
  packages : List Package
  diagnostics : List Diagnostic
deriving DecidableEq

namespace Reader

/-- Before the first line. -/
def start (file : String) : Reader :=
  { file, line := 0, format := .v1, package := none, scope := .outside, packages := [], diagnostics := [] }

/-- Reports a problem with the line. -/
def report (r : Reader) (line : Line) (problem : Problem) : Reader :=
  { r with diagnostics := r.diagnostics ++ [.ofText r.file line.number problem line.text] }

/-- Drops the open class, and reports it under its own line. -/
def dropOpen (r : Reader) : Reader :=
  match r.scope with
  | .inside c =>
    { r with
      scope := .outside
      diagnostics := r.diagnostics ++
        [.ofText r.file c.origin.line (.unclosedClass c.fullname) c.origin.raw.toList] }
  | _ => r

/-- Takes the version that the first line names. An unknown version is read as format 2. -/
def setFormat (r : Reader) (line : Line) (version : List Char) : Reader :=
  match Format.ofHeaderVersion? version with
  | some format => { r with format }
  | none => { r.report line (.unknownFormat (String.ofList version)) with format := .v2 }

/-- Opens the package of the line. -/
def openPackage (r : Reader) (line : Line) : Reader :=
  match Package.read line with
  | .ok package => { r with package := some package, packages := r.packages ++ [package] }
  | .error e => { r.report line (.declaration e) with package := none }

/-- The class of the line, in the package that is open. -/
def readClass (r : Reader) (line : Line) : Except Problem Class :=
  match r.package with
  | some package => (Class.read package r.format line).mapError .declaration
  | none => .error .outsidePackage

/-- Opens the class of the line; a class that was open is dropped. -/
def openClass (r : Reader) (line : Line) : Reader :=
  let r := r.dropOpen
  match r.readClass line with
  | .ok c => { r with scope := .inside c }
  | .error problem => { r.report line problem with scope := .skipping }

/-- Adds to the open class what `add` reads from the line. -/
def addMember (r : Reader) (line : Line) (add : Class → Except DeclarationError Class) : Reader :=
  match r.scope with
  | .inside c =>
    match add c with
    | .ok c => { r with scope := .inside c }
    | .error e => r.report line (.declaration e)
  | .outside => r.report line .outsideClass
  | .skipping => r

/-- Closes the open class and hands it out. -/
def close (r : Reader) : Reader × Option Class :=
  match r.scope with
  | .inside c => ({ r with scope := .outside }, some c)
  | _ => ({ r with scope := .outside }, none)

/-- Takes a line that names no format. -/
def feedLine (r : Reader) (line : Line) : Reader × Option Class :=
  match line.shape with
  | .package => (r.openPackage line, none)
  | .header => (r.openClass line, none)
  | .method =>
    (r.addMember line fun c => (Method.read c line).map fun m => { c with methods := c.methods ++ [m] }, none)
  | .field =>
    (r.addMember line fun c => (Field.read c line).map fun f => { c with fields := c.fields ++ [f] }, none)
  | .close => r.close
  | .other => (r, none)

/-- Takes a line with its number; answers the class that ends with it. -/
def take (r : Reader) (line : Line) : Reader × Option Class :=
  let r := { r with line := line.number }
  match line.version? with
  | some version => (r.setFormat line version, none)
  | none => r.feedLine line

/-- Takes the next line. -/
def feed (r : Reader) (text : String) : Reader × Option Class := r.take (.ofText (r.line + 1) text)

/-- Takes the end of the dump. -/
def finish (r : Reader) : Reader := r.dropOpen

end Reader

/-! ## A whole dump -/

namespace Reader

/-- The reader after the lines, and the classes that they ended. -/
def feedAll (r : Reader) : List String → Reader × List Class
  | [] => (r, [])
  | line :: lines =>
    let (r, ended) := r.feed line
    let (r, classes) := r.feedAll lines
    (r, ended.toList ++ classes)

end Reader

/-- All that a dump declares, in the order of its lines. -/
structure Contents where
  format : Format
  packages : List Package
  classes : List Class
  diagnostics : List Diagnostic
deriving DecidableEq

namespace Contents

/-- What a reader has read, and the classes that it handed out. -/
def ofReader (r : Reader) (classes : List Class) : Contents :=
  { format := r.format, packages := r.packages, classes, diagnostics := r.diagnostics }

/-- What the lines of a dump declare. -/
def ofLines (file : String) (lines : List String) : Contents :=
  let (reader, classes) := (Reader.start file).feedAll lines
  ofReader reader.finish classes

end Contents

/-- A dump: the name that diagnostics show, and the text. -/
structure Dump where
  name : String
  text : String
deriving DecidableEq, Repr

/-- What a dump declares. -/
def Dump.contents (d : Dump) : Contents := Contents.ofLines d.name (Text.lines d.text)

/-! ## One class at a time -/

/-- A reader and the lines it has not taken yet. -/
structure Stream where
  reader : Reader
  lines : List String

namespace Stream

/-- The stream of a dump's lines. -/
def ofLines (file : String) (lines : List String) : Stream := ⟨.start file, lines⟩

/-- A stream of no lines. -/
def empty : Stream := ofLines "" []

/-- Reads on to the next class that ends, or to the end of the dump. -/
def next : Stream → Option Class × Stream
  | ⟨reader, []⟩ => (none, ⟨reader.finish, []⟩)
  | ⟨reader, line :: lines⟩ =>
    match reader.feed line with
    | (reader, some c) => (some c, ⟨reader, lines⟩)
    | (reader, none) => next ⟨reader, lines⟩
termination_by s => s.lines.length

theorem length_next {s left : Stream} {c : Class} (handed : s.next = (some c, left)) :
    left.lines.length < s.lines.length := by
  fun_induction next s with
  | case1 => cases handed
  | case2 => cases handed; simp
  | case3 _ _ _ _ _ ih => have := ih handed; simp only [List.length_cons] at this ⊢; omega

/-- Hands out all classes up to the end of the dump. -/
def drain (s : Stream) : List Class × Reader :=
  match _handed : s.next with
  | (none, s) => ([], s.reader)
  | (some c, s) => (c :: s.drain.1, s.drain.2)
termination_by s.lines.length
decreasing_by all_goals exact length_next _handed

theorem drain_of_next_eq_none {s left : Stream} (handed : s.next = (none, left)) : s.drain = ([], left.reader) := by
  rw [drain]
  split
  next same => rw [handed] at same; cases same; rfl
  next same => rw [handed] at same; cases same

theorem drain_of_next_eq_some {s left : Stream} {c : Class} (handed : s.next = (some c, left)) :
    s.drain = (c :: left.drain.1, left.drain.2) := by
  rw [drain]
  split
  next same => rw [handed] at same; cases same
  next same => rw [handed] at same; cases same; rfl

theorem drain_congr {s t : Stream} (same : s.next = t.next) : s.drain = t.drain := by
  cases handed : t.next with
  | mk item left =>
    cases item with
    | none => rw [drain_of_next_eq_none handed, drain_of_next_eq_none (same.trans handed)]
    | some c => rw [drain_of_next_eq_some handed, drain_of_next_eq_some (same.trans handed)]

/-- Class by class, a dump is read as it is at once. -/
theorem drain_eq (reader : Reader) (lines : List String) :
    drain ⟨reader, lines⟩ = ((reader.feedAll lines).2, (reader.feedAll lines).1.finish) := by
  induction lines generalizing reader with
  | nil =>
    have handed : next ⟨reader, []⟩ = (none, ⟨reader.finish, []⟩) := by rw [next]
    exact drain_of_next_eq_none handed
  | cons line lines ih =>
    rw [Reader.feedAll]
    cases fed : reader.feed line with
    | mk reader' ended =>
      cases ended with
      | some c =>
        have handed : next ⟨reader, line :: lines⟩ = (some c, ⟨reader', lines⟩) := by simp only [next, fed]
        rw [drain_of_next_eq_some handed, ih]
        rfl
      | none =>
        have same : next ⟨reader, line :: lines⟩ = next ⟨reader', lines⟩ := by rw [next]; simp only [fed]
        rw [drain_congr same, ih]
        rfl

end Stream

/-- The classes of a dump, one at a time. -/
def Dump.stream (d : Dump) : Stream := .ofLines d.name (Text.lines d.text)

/-- One at a time the same classes are handed out, and the same diagnostics are left at the end. -/
theorem Dump.drain_stream (d : Dump) :
    d.stream.drain.1 = d.contents.classes ∧ d.stream.drain.2.diagnostics = d.contents.diagnostics := by
  rw [Dump.stream, Stream.ofLines, Stream.drain_eq]
  exact ⟨rfl, rfl⟩

end SignatureLint
