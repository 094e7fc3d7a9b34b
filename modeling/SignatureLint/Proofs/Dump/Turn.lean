import SignatureLint.Proofs.Dump.Step
import SignatureLint.Proofs.Token.Step

/-!
# What a line opens

`Effect` tells under which numbers a line reports; `Turn` tells what a line opens and closes: which package and
which class are open after it, where they were read from, and which class it hands out. What is said of all
packages and classes that are read is shown turn by turn.
-/

namespace SignatureLint

namespace Reader

/-- What is open after a line, and the class that the line hands out. -/
inductive Turn (r : Reader) (line : Line) : Option Package → Scope → Option Class → Prop where
  /-- Nothing is opened and nothing is closed. -/
  | pass : Turn r line r.package r.scope none
  | package {p : Package} : Package.read line = .ok p → Turn r line (some p) r.scope none
  | noPackage : Turn r line none r.scope none
  | opened {c : Class} : r.readClass line = .ok c → Turn r line r.package (.inside c) none
  | failed : Turn r line r.package .skipping none
  /-- The open class has one member more. -/
  | member {c d : Class} :
    r.scope = .inside c → { c with methods := d.methods, fields := d.fields } = d →
      Turn r line r.package (.inside d) none
  | ended : Turn r line r.package .outside r.scope.current?

variable {r : Reader} {line : Line}

theorem package_dropOpen (r : Reader) : r.dropOpen.package = r.package := by
  unfold dropOpen
  split <;> rfl

theorem readClass_dropOpen (r : Reader) (line : Line) : r.dropOpen.readClass line = r.readClass line := by
  unfold dropOpen
  split <;> rfl

theorem turn_openPackage : Turn r line (r.openPackage line).package (r.openPackage line).scope none := by
  unfold openPackage
  split
  next p read => exact .package read
  next => exact .noPackage

theorem turn_openClass : Turn r line (r.openClass line).package (r.openClass line).scope none := by
  unfold openClass
  dsimp only
  rw [readClass_dropOpen]
  cases read : r.readClass line with
  | ok c =>
    dsimp only
    rw [package_dropOpen]
    exact .opened read
  | error =>
    show Turn r line r.dropOpen.package .skipping none
    rw [package_dropOpen]
    exact .failed

theorem turn_addMember {add : Class → Except DeclarationError Class}
    (adds : ∀ c d, add c = .ok d → { c with methods := d.methods, fields := d.fields } = d) :
    Turn r line (r.addMember line add).package (r.addMember line add).scope none := by
  unfold addMember
  split
  next c scope =>
    split
    next d added => exact .member scope (adds c d added)
    next => exact .pass
  next => exact .pass
  next => exact .pass

theorem turn_close : Turn r line r.close.1.package r.close.1.scope r.close.2 := by
  have closed := @Turn.ended r line
  unfold close
  cases scope : r.scope with
  | inside c =>
    rw [scope] at closed
    exact closed
  | outside =>
    rw [scope] at closed
    exact closed
  | skipping =>
    rw [scope] at closed
    exact closed

/-- **Each line takes one of the turns.** -/
theorem feedLine_turn (r : Reader) (line : Line) :
    Turn r line (r.feedLine line).1.package (r.feedLine line).1.scope (r.feedLine line).2 := by
  unfold feedLine
  cases line.shape with
  | package => exact turn_openPackage
  | header => exact turn_openClass
  | method =>
    apply turn_addMember
    intro c d added
    obtain ⟨m, -, rfl⟩ := map_eq_ok.mp added
    rfl
  | field =>
    apply turn_addMember
    intro c d added
    obtain ⟨f, -, rfl⟩ := map_eq_ok.mp added
    rfl
  | close => exact turn_close
  | other => exact .pass

/-- The count of lines decides nothing. -/
theorem Turn.ofLine {n : Nat} {package : Option Package} {scope : Scope} {ended : Option Class}
    (turn : Turn { r with line := n } line package scope ended) : Turn r line package scope ended := by
  cases turn with
  | pass => exact .pass
  | package read => exact .package read
  | noPackage => exact .noPackage
  | opened read => exact .opened read
  | failed => exact .failed
  | member scope same => exact .member scope same
  | ended => exact .ended

/-- The class that a line hands out was open before it. -/
theorem Turn.handed_eq {package : Option Package} {scope : Scope} {handed : Option Class}
    (turn : Turn r line package scope handed) {c : Class} (handsOut : handed = some c) : r.scope.current? = some c := by
  cases turn with
  | ended => exact handsOut
  | _ => cases handsOut

/-- A line that names a format opens nothing. -/
theorem feed_turn (r : Reader) (text : String) :
    Turn r (Line.ofText (r.line + 1) text) (r.feed text).1.package (r.feed text).1.scope (r.feed text).2 := by
  unfold feed take
  dsimp only
  split
  · unfold setFormat
    split
    · exact .pass
    · exact .pass
  · exact (feedLine_turn { r with line := _ } _).ofLine

/-! ## The format -/

theorem format_dropOpen (r : Reader) : r.dropOpen.format = r.format := by
  unfold dropOpen
  split <;> rfl

theorem format_openPackage (r : Reader) (line : Line) : (r.openPackage line).format = r.format := by
  unfold openPackage
  split <;> rfl

theorem format_openClass (r : Reader) (line : Line) : (r.openClass line).format = r.format := by
  unfold openClass
  dsimp only
  split
  · exact format_dropOpen r
  · exact format_dropOpen r

theorem format_addMember (r : Reader) (line : Line) (add : Class → Except DeclarationError Class) :
    (r.addMember line add).format = r.format := by
  unfold addMember
  split
  · split <;> rfl
  · rfl
  · rfl

theorem format_feedLine (r : Reader) (line : Line) : (r.feedLine line).1.format = r.format := by
  unfold feedLine
  cases line.shape with
  | package => exact format_openPackage r line
  | header => exact format_openClass r line
  | method => exact format_addMember r line _
  | field => exact format_addMember r line _
  | close =>
    show r.close.1.format = r.format
    unfold close
    split <;> rfl
  | other => rfl

/-- A line that names no format changes none. -/
theorem format_feed {text : String} (unnamed : (Line.ofText (r.line + 1) text).version? = none) :
    (r.feed text).1.format = r.format := by
  rw [feed_of_version?_eq_none unnamed, format_feedLine]

/-- Only the first line names a format. -/
theorem version?_eq_none (later : 0 < r.line) (text : String) : (Line.ofText (r.line + 1) text).version? = none := by
  have notFirst : (Line.ofText (r.line + 1) text).number ≠ 1 := by
    rw [Line.number_ofText]
    omega
  rw [Line.version?, decide_eq_false notFirst, Bool.false_and, if_neg Bool.false_ne_true]

theorem format_feedAll (later : 0 < r.line) (texts : List String) : (r.feedAll texts).1.format = r.format := by
  induction texts generalizing r with
  | nil => rfl
  | cons text texts ih =>
    rw [feedAll_cons, ih (line_feed_pos r text), format_feed (version?_eq_none later text)]

end Reader

end SignatureLint
