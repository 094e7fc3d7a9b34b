import Mathlib.Logic.Function.Iterate
import SignatureLint.Proofs.Dump.Counter
import SignatureLint.Proofs.Dump.Names
import SignatureLint.Proofs.Grammar.Header
import SignatureLint.Proofs.Pairing.Baseline

/-!
# What belongs to a class

Each class that a dump hands out is made of a header line and the lines up to its end (`Class.MadeOf`): it stands in
the package of the nearest package line before its header, it is read in the format that was named before it,
and its members are just those that are read from the lines behind its header, none of which is the header or
the end of a class. What one line does to the open class is one function of the class and the line
(`Class.withLine`), and `Reader.Tells` carries the whole over a run, in whatever order the lines stand and whatever
numbers they have. A format is named by a line with the number one; that is the first line alone, as long as no
counter starts again (`Format.after_numbered`).
-/

namespace SignatureLint

/-! ## What a dump's lines say of packages and the format -/

/-- The last of the lines that starts as a package line. -/
def nearestPackageLine? (lines : List Line) : Option Line := lines.reverse.find? (·.startsWith "package")

/-- The package that is open after the lines: that of the nearest package line, if it can be read. -/
def packageAfter (lines : List Line) : Option Package :=
  (nearestPackageLine? lines).bind fun line => (Package.read line).toOption

/-- The format that the line names, if its number is one and it names any. -/
def Line.format? (line : Line) : Option Format :=
  line.version?.map fun version => (Format.ofHeaderVersion? version).getD .v2

/-- The format of a dump with these lines, told by the first of them alone. -/
def Format.ofLines (lines : List Line) : Format := (lines.head?.bind Line.format?).getD .v1

/-- The format that was named last in the lines. -/
def Format.after (lines : List Line) : Format := (lines.reverse.findSome? Line.format?).getD .v1

section

variable {lines : List Line} {line : Line}

theorem packageAfter_snoc (lines : List Line) (line : Line) :
    packageAfter (lines ++ [line]) =
      if line.startsWith "package" then (Package.read line).toOption else packageAfter lines := by
  rw [packageAfter, nearestPackageLine?, List.reverse_append, List.reverse_singleton, List.singleton_append,
    List.find?_cons]
  cases line.startsWith "package" with
  | true => rfl
  | false => rfl

theorem exists_of_packageAfter {package : Package} (found : packageAfter lines = some package) :
    ∃ place, nearestPackageLine? lines = some place ∧ Package.read place = .ok package := by
  obtain ⟨place, nearest, read⟩ := Option.bind_eq_some_iff.mp found
  exact ⟨place, nearest, Grammar.eq_ok_of_toOption read⟩

theorem Format.after_snoc (lines : List Line) (line : Line) :
    after (lines ++ [line]) = line.format?.getD (after lines) := by
  rw [after, List.reverse_append, List.reverse_singleton, List.singleton_append, List.findSome?_cons]
  cases line.format? with
  | some format => rfl
  | none => rfl

theorem Line.format?_eq_none (unnamed : line.version? = none) : line.format? = none := by
  rw [format?, unnamed, Option.map_none]

/-- Where all lines but the first have other numbers than one, the first alone names the format. -/
theorem Format.after_eq_ofLines {first : Line} {rest : List Line} (later : ∀ line ∈ rest, line.number ≠ 1) :
    after (first :: rest) = ofLines (first :: rest) := by
  have unnamed : rest.reverse.findSome? Line.format? = none := by
    refine List.findSome?_eq_none_iff.mpr fun line mem => ?_
    exact Line.format?_eq_none (Line.version?_of_number_ne (later line (List.mem_reverse.mp mem)))
  rw [after, List.reverse_cons, List.findSome?_append, unnamed, Option.none_or, ofLines, List.findSome?_singleton]
  rfl

/-- So it is with the lines of a dump, counted without a bound. -/
theorem Format.after_numbered (texts : List String) : after (numbered texts) = ofLines (numbered texts) := by
  cases texts with
  | nil => rfl
  | cons first texts =>
    rw [numbered, List.mapIdx_cons]
    refine after_eq_ofLines fun line mem => ?_
    obtain ⟨i, inside, rfl⟩ := List.mem_mapIdx.mp mem
    rw [Line.number_ofText]
    omega

theorem Format.ofLines_take (texts : List String) {n : Nat} (positive : 0 < n) :
    ofLines (numbered (texts.take n)) = ofLines (numbered texts) := by
  obtain ⟨n, rfl⟩ := Nat.exists_eq_succ_of_ne_zero positive.ne'
  cases texts with
  | nil => rfl
  | cons first texts =>
    rw [List.take_succ_cons, numbered, numbered, List.mapIdx_cons, List.mapIdx_cons]
    rfl

end

/-! ## One line and one class -/

namespace Class

/-- The constructor or method that the line declares in the class, if it declares one and can be read. -/
def methodOn? (owner : Class) (line : Line) : Option Method :=
  if line.shape = .method then (Method.read owner line).toOption else none

/-- The field that the line declares in the class, if it declares one and can be read. -/
def fieldOn? (owner : Class) (line : Line) : Option Field :=
  if line.shape = .field then (Field.read owner line).toOption else none

/-- The class with what the line declares in it. -/
def withLine (c : Class) (line : Line) : Class :=
  { c with methods := c.methods ++ (c.methodOn? line).toList, fields := c.fields ++ (c.fieldOn? line).toList }

/-- The class without its members. -/
def withoutMembers (c : Class) : Class := { c with methods := [], fields := [] }

variable {c : Class} {line header : Line} {format : Format} {before body : List Line}

theorem withLine_of_shape (noMethod : line.shape ≠ .method) (noField : line.shape ≠ .field) : c.withLine line = c := by
  rw [withLine, methodOn?, if_neg noMethod, fieldOn?, if_neg noField]
  simp only [Option.toList_none, List.append_nil]

/-- The class is made of these lines: `header` opens it behind the lines `before`, and `body` gives it its members. -/
structure MadeOf (format : Format) (before : List Line) (header : Line) (body : List Line) (c : Class) : Prop where
  headed : header.HeaderShaped
  /-- The class stands in the package of the nearest package line, which was read. -/
  opened : ∃ place package, nearestPackageLine? before = some place ∧ Package.read place = .ok package ∧
    Class.read package format header = .ok c.withoutMembers
  /-- No other class is opened here, and none is ended. -/
  inside : ∀ line ∈ body, ¬ line.HeaderShaped ∧ ¬ line.EndShaped
  methods : c.methods = body.filterMap c.methodOn?
  fields : c.fields = body.filterMap c.fieldOn?

/-- A class that was just opened is made of its header. -/
theorem MadeOf.bare {package : Package} (headed : header.HeaderShaped) (opened : packageAfter before = some package)
    (read : Class.read package format header = .ok c) : c.MadeOf format before header [] := by
  obtain ⟨place, nearest, placed⟩ := exists_of_packageAfter opened
  obtain ⟨_, -, rfl⟩ := map_eq_ok.mp read
  exact ⟨headed, ⟨place, package, nearest, placed, read⟩, nofun, rfl, rfl⟩

theorem filterMap_snoc {α : Type} (f : Line → Option α) (body : List Line) (line : Line) :
    (body ++ [line]).filterMap f = body.filterMap f ++ (f line).toList := by
  rw [List.filterMap_append]
  cases found : f line with
  | none => simp [found]
  | some a => simp [found]

/-- One more line that neither opens nor ends a class. -/
theorem MadeOf.withLine (made : c.MadeOf format before header body) (noHeader : ¬ line.HeaderShaped)
    (noEnd : ¬ line.EndShaped) : (c.withLine line).MadeOf format before header (body ++ [line]) where
  headed := made.headed
  opened := made.opened
  inside := by
    intro a mem
    rcases List.mem_append.mp mem with old | own
    · exact made.inside a old
    · rw [List.mem_singleton.mp own]
      exact ⟨noHeader, noEnd⟩
  methods := by
    -- what is read of a member does not depend on the members before it
    have same : (c.withLine line).methodOn? = c.methodOn? := rfl
    rw [same, filterMap_snoc, ← made.methods]
    rfl
  fields := by
    have same : (c.withLine line).fieldOn? = c.fieldOn? := rfl
    rw [same, filterMap_snoc, ← made.fields]
    rfl

end Class

/-! ## One line and the open class -/

namespace Reader

variable {r : Reader} {line : Line}

theorem current?_addMember (add : Class → Except DeclarationError Class) :
    (r.addMember line add).scope.current? = r.scope.current?.map fun c => (add c).toOption.getD c := by
  unfold addMember
  cases scope : r.scope with
  | outside => exact congrArg Scope.current? scope
  | skipping => exact congrArg Scope.current? scope
  | inside c =>
    cases added : add c with
    | ok d => simp only [added, Scope.current?, Except.toOption, Option.map_some, Option.getD_some]
    | error e => simp only [added, report, scope, Scope.current?, Except.toOption, Option.map_some, Option.getD_none]

/-- A line that neither opens nor ends a class gives the open class what it declares. -/
theorem current?_feedLine (noHeader : ¬ line.HeaderShaped) (noEnd : ¬ line.EndShaped) :
    (r.feedLine line).1.scope.current? = r.scope.current?.map (·.withLine line) ∧ (r.feedLine line).2 = none := by
  unfold feedLine
  rcases line.shape_cases with
    ⟨-, header⟩ | ⟨shape, -⟩ | ⟨shape, -⟩ | ⟨-, ends, -⟩ | ⟨shape, -⟩
  · exact absurd header noHeader
  · rw [shape]
    refine ⟨(current?_addMember _).trans ?_, rfl⟩
    congr 1
    funext c
    have noField : c.fieldOn? line = none := if_neg (by rw [shape]; decide)
    have method : c.methodOn? line = (Method.read c line).toOption := if_pos shape
    rw [Class.withLine, noField, method, Option.toList_none, List.append_nil]
    cases Method.read c line with
    | ok m => rfl
    | error e => simp only [Except.map, Except.toOption, Option.getD_none, Option.toList_none, List.append_nil]
  · rw [shape]
    refine ⟨(current?_addMember _).trans ?_, rfl⟩
    congr 1
    funext c
    have noMethod : c.methodOn? line = none := if_neg (by rw [shape]; decide)
    have field : c.fieldOn? line = (Field.read c line).toOption := if_pos shape
    rw [Class.withLine, noMethod, field, Option.toList_none, List.append_nil]
    cases Field.read c line with
    | ok f => rfl
    | error e => simp only [Except.map, Except.toOption, Option.getD_none, Option.toList_none, List.append_nil]
  · exact absurd ends noEnd
  · have noMember (c : Class) : c.withLine line = c := by
      apply Class.withLine_of_shape
      · rcases shape with shape | shape <;> rw [shape] <;> decide
      · rcases shape with shape | shape <;> rw [shape] <;> decide
    have same : r.scope.current?.map (·.withLine line) = r.scope.current? := by
      simp only [noMember]
      exact Option.map_id_apply
    rw [same]
    rcases shape with shape | shape
    · rw [shape]
      refine ⟨?_, rfl⟩
      show (r.openPackage line).scope.current? = _
      unfold openPackage
      split <;> rfl
    · rw [shape]
      exact ⟨rfl, rfl⟩

theorem current?_of_header (header : line.HeaderShaped) :
    (r.feedLine line).1.scope.current? = (r.readClass line).toOption ∧ (r.feedLine line).2 = none := by
  rw [feedLine, header.shape_eq]
  refine ⟨?_, rfl⟩
  show (r.openClass line).scope.current? = _
  unfold openClass
  dsimp only
  rw [readClass_dropOpen]
  cases r.readClass line with
  | ok c => rfl
  | error e => rfl

theorem current?_of_end (noHeader : ¬ line.HeaderShaped) (ends : line.EndShaped) :
    (r.feedLine line).1.scope.current? = none ∧ (r.feedLine line).2 = r.scope.current? := by
  have shape : line.shape = .close := by
    rcases line.shape_cases with ⟨-, header⟩ | ⟨-, method⟩ | ⟨-, field⟩ | ⟨shape, -⟩ | ⟨-, plain⟩
    · exact absurd header noHeader
    · exact absurd ends (Line.memberShaped_iff.mpr (.inl method)).not_endShaped
    · exact absurd ends (Line.memberShaped_iff.mpr (.inr field)).not_endShaped
    · exact shape
    · exact absurd ends plain.noEnd
  rw [feedLine, shape]
  show r.close.1.scope.current? = none ∧ r.close.2 = _
  unfold close
  cases r.scope with
  | outside => exact ⟨rfl, rfl⟩
  | inside c => exact ⟨rfl, rfl⟩
  | skipping => exact ⟨rfl, rfl⟩

theorem package_openClass : (r.openClass line).package = r.package := by
  unfold openClass
  dsimp only
  split
  · exact package_dropOpen r
  · exact package_dropOpen r

theorem package_addMember (add : Class → Except DeclarationError Class) :
    (r.addMember line add).package = r.package := by
  unfold addMember
  split
  · split <;> rfl
  · rfl
  · rfl

/-- Only a package line changes the package that is open. -/
theorem package_feedLine :
    (r.feedLine line).1.package = if line.startsWith "package" then (Package.read line).toOption else r.package := by
  by_cases start : line.startsWith "package" = true
  · rw [if_pos start, feedLine, Line.shape_eq_package_iff.mpr start]
    show (r.openPackage line).package = _
    unfold openPackage
    cases Package.read line with
    | ok package => rfl
    | error e => rfl
  · rw [if_neg start]
    unfold feedLine
    cases shape : line.shape with
    | package => exact absurd (Line.shape_eq_package_iff.mp shape) start
    | header => exact package_openClass
    | method => exact package_addMember _
    | field => exact package_addMember _
    | close =>
      show r.close.1.package = r.package
      unfold close
      split <;> rfl
    | other => rfl

/-! ### Whatever it names -/

/-- A line that names a format declares no member. -/
theorem withLine_of_version? {version : List Char} (names : line.version? = some version) (c : Class) :
    c.withLine line = c := by
  have plain := Line.plain_of_version? names
  have noMember := plain.noMember
  rcases line.shape_cases with ⟨-, header⟩ | ⟨-, method⟩ | ⟨-, field⟩ | ⟨-, ends, -⟩ | ⟨shape, -⟩
  · exact absurd header plain.noHeader
  · exact absurd (Line.memberShaped_iff.mpr (.inl method)) noMember
  · exact absurd (Line.memberShaped_iff.mpr (.inr field)) noMember
  · exact absurd ends plain.noEnd
  · apply Class.withLine_of_shape
    · rcases shape with shape | shape <;> rw [shape] <;> decide
    · rcases shape with shape | shape <;> rw [shape] <;> decide

theorem setFormat_eq (version : List Char) :
    (r.setFormat line version).scope = r.scope ∧ (r.setFormat line version).package = r.package ∧
      (r.setFormat line version).format = (Format.ofHeaderVersion? version).getD .v2 := by
  unfold setFormat
  split
  next format known => rw [known]; exact ⟨rfl, rfl, rfl⟩
  next unknown => rw [unknown]; exact ⟨rfl, rfl, rfl⟩

theorem current?_take (noHeader : ¬ line.HeaderShaped) (noEnd : ¬ line.EndShaped) :
    (r.take line).1.scope.current? = r.scope.current?.map (·.withLine line) ∧ (r.take line).2 = none := by
  cases names : line.version? with
  | none =>
    rw [take_of_version?_eq_none names]
    exact current?_feedLine (r := { r with line := line.number }) noHeader noEnd
  | some version =>
    have same : r.scope.current?.map (·.withLine line) = r.scope.current? := by
      simp only [withLine_of_version? names]
      exact Option.map_id_apply
    rw [take_of_version?_eq_some names, same]
    exact ⟨congrArg Scope.current? (setFormat_eq version).1, rfl⟩

theorem package_take :
    (r.take line).1.package = if line.startsWith "package" then (Package.read line).toOption else r.package := by
  cases names : line.version? with
  | none =>
    rw [take_of_version?_eq_none names]
    exact package_feedLine (r := { r with line := line.number })
  | some version =>
    rw [take_of_version?_eq_some names, Line.noPackage_of_version? names, if_neg Bool.false_ne_true]
    exact (setFormat_eq version).2.1

theorem format_take : (r.take line).1.format = line.format?.getD r.format := by
  cases names : line.version? with
  | none =>
    rw [take_of_version?_eq_none names, Line.format?_eq_none names]
    exact format_feedLine { r with line := line.number } line
  | some version =>
    rw [take_of_version?_eq_some names, Line.format?, names]
    exact (setFormat_eq version).2.2

end Reader

/-! ## Runs -/

/-- What the lines of a dump tell of a reader that has taken them, and of the classes that it has handed out. -/
structure Reader.Tells (lines : List Line) (r : Reader) (handed : List Class) : Prop where
  format : r.format = Format.after lines
  package : r.package = packageAfter lines
  current : ∀ c, r.scope.current? = some c → ∃ before header body, lines = before ++ header :: body ∧
    c.MadeOf (Format.after before) before header body
  handed : ∀ c ∈ handed, ∃ before header body ending after,
    lines = before ++ header :: (body ++ ending :: after) ∧ ending.EndShaped ∧
      c.MadeOf (Format.after before) before header body

namespace Reader.Tells

variable {lines : List Line} {line : Line} {r : Reader} {handed : List Class}

theorem start (file : String) : Tells [] (Reader.start file) [] where
  format := rfl
  package := rfl
  current := nofun
  handed := nofun

/-- What is told of lines is told of one line more. -/
theorem take (tells : Tells lines r handed) (line : Line) :
    Tells (lines ++ [line]) (r.take line).1 (handed ++ (r.take line).2.toList) where
  format := by rw [format_take, Format.after_snoc, tells.format]
  package := by rw [package_take, packageAfter_snoc, tells.package]
  current := by
    intro c current
    by_cases header : line.HeaderShaped
    · have unnamed := header.version?_eq_none
      rw [take_of_version?_eq_none unnamed, (current?_of_header header).1] at current
      have read := Grammar.eq_ok_of_toOption current
      refine ⟨lines, line, [], rfl, ?_⟩
      unfold readClass at read
      split at read
      next package opened =>
        rw [← tells.format]
        exact .bare header (tells.package ▸ opened) (mapError_eq_ok.mp read)
      next => cases read
    by_cases ends : line.EndShaped
    · rw [take_of_version?_eq_none ends.version?_eq_none, (current?_of_end header ends).1] at current
      cases current
    · rw [(current?_take header ends).1] at current
      obtain ⟨d, before, rfl⟩ := Option.map_eq_some_iff.mp current
      obtain ⟨before, first, body, split, made⟩ := tells.current d before
      exact ⟨before, first, body ++ [line], by simp [split], made.withLine header ends⟩
  handed := by
    intro c mem
    rcases List.mem_append.mp mem with old | ended
    · obtain ⟨before, header, body, ending, after, split, ends, made⟩ := tells.handed c old
      exact ⟨before, header, body, ending, after ++ [line], by simp [split], ends, made⟩
    by_cases header : line.HeaderShaped
    · rw [take_of_version?_eq_none header.version?_eq_none, (current?_of_header header).2] at ended
      cases ended
    by_cases ends : line.EndShaped
    · rw [take_of_version?_eq_none ends.version?_eq_none, (current?_of_end header ends).2] at ended
      obtain ⟨before, first, body, split, made⟩ := tells.current c (Option.mem_toList.mp ended)
      exact ⟨before, first, body, line, [], by simp [split], ends, made⟩
    · rw [(current?_take header ends).2] at ended
      cases ended

end Reader.Tells

/-- **A run keeps what is told of its lines**, whatever their numbers are. -/
theorem Reader.tells_takeAll (file : String) (lines : List Line) :
    Tells lines ((start file).takeAll lines).1 ((start file).takeAll lines).2 := by
  induction lines using List.reverseRecOn with
  | nil => exact .start file
  | append_singleton lines line ih =>
    rw [takeAll_snoc]
    exact ih.take line

theorem Reader.tells_after (file : String) (texts : List String) :
    Tells (numbered texts) (after file texts) (drainedClasses file texts) := by
  rw [drainedClasses_eq]
  show Tells (numbered texts) ((start file).feedAll texts).1 ((start file).feedAll texts).2
  rw [feedAll_eq_takeAll]
  exact tells_takeAll file _

/-! ## Names and owners -/

/-- The class stands on these lines, with what is told of its names, its format and the owners of its members. -/
structure Class.StandsOn (format : Format) (before : List Line) (header : Line) (body : List Line) (c : Class) : Prop
    extends c.MadeOf format before header body where
  package : ∃ place package, nearestPackageLine? before = some place ∧ Package.read place = .ok package ∧
    c.package = package.name
  /-- The declared name is the word behind the keyword of a kind in the header line. -/
  declared : ∃ (tokens : List Token) (kind : ClassKind) (rest : List Token),
    header.tokensIn format = .ok tokens ∧ kind.token :: .word c.declared :: rest <:+ tokens
  fullname : c.fullname = c.package ++ "." ++ c.declared
  /-- The simple name is the last segment of the full name. -/
  name : ∃ start, c.fullname = start ++ "." ++ c.name ∧ '.' ∉ c.name.toList
  origin : c.origin = header.origin
  format_eq : c.format = format
  methodOwners : ∀ m ∈ c.methods, m.owner = c.fullname ∧ ∃ line ∈ body, m.origin = line.origin ∧
    MethodSignature.read format c.isAnnotationType line = .ok m.toMethodSignature
  fieldOwners : ∀ f ∈ c.fields, f.owner = c.fullname ∧ ∃ line ∈ body, f.origin = line.origin ∧
    FieldSignature.read format line = .ok f.toFieldSignature

namespace Class

variable {c : Class} {line header : Line} {format : Format} {before body : List Line}

theorem read_of_methodOn? {m : Method} (declared : c.methodOn? line = some m) :
    m.owner = c.fullname ∧ m.origin = line.origin ∧
      MethodSignature.read c.format c.isAnnotationType line = .ok m.toMethodSignature := by
  unfold methodOn? at declared
  split at declared
  · obtain ⟨signature, read, rfl⟩ := map_eq_ok.mp (Grammar.eq_ok_of_toOption declared)
    exact ⟨rfl, rfl, read⟩
  · cases declared

theorem read_of_fieldOn? {f : Field} (declared : c.fieldOn? line = some f) :
    f.owner = c.fullname ∧ f.origin = line.origin ∧ FieldSignature.read c.format line = .ok f.toFieldSignature := by
  unfold fieldOn? at declared
  split at declared
  · obtain ⟨signature, read, rfl⟩ := map_eq_ok.mp (Grammar.eq_ok_of_toOption declared)
    exact ⟨rfl, rfl, read⟩
  · cases declared

/-- What a class is made of tells its names, its format and the owners of its members. -/
theorem MadeOf.standsOn (made : c.MadeOf format before header body) : c.StandsOn format before header body := by
  obtain ⟨place, package, nearest, placed, opened⟩ := made.opened
  obtain ⟨said, read, same⟩ := map_eq_ok.mp opened
  have format_eq : c.format = format := (congrArg Class.format same).symm
  refine {
    toMadeOf := made
    package := ⟨place, package, nearest, placed, (congrArg Class.package same).symm⟩
    declared := ?_
    fullname := rfl
    name := c.fullname_eq_append_name
    origin := (congrArg Class.origin same).symm
    format_eq
    methodOwners := ?_
    fieldOwners := ?_ }
  · have name : said.declared = c.declared := congrArg (·.declared) same
    rw [← name]
    exact ClassHeader.declared_of_read read
  · intro m mem
    rw [made.methods] at mem
    obtain ⟨line, memLine, declared⟩ := List.mem_filterMap.mp mem
    obtain ⟨owner, origin, read⟩ := read_of_methodOn? declared
    exact ⟨owner, line, memLine, origin, format_eq ▸ read⟩
  · intro f mem
    rw [made.fields] at mem
    obtain ⟨line, memLine, declared⟩ := List.mem_filterMap.mp mem
    obtain ⟨owner, origin, read⟩ := read_of_fieldOn? declared
    exact ⟨owner, line, memLine, origin, format_eq ▸ read⟩

end Class

/-! ## With a counter of 32 bits -/

/-- Exact numbers are those of the lines that have one, counted without a bound. -/
theorem Overflow.Exact.numbered_eq {o : Overflow} {texts : List String} (exact : o.Exact texts.length) :
    o.numbered texts = SignatureLint.numbered (texts.take (UInt32.size - 1)) := by
  cases o with
  | panics => rfl
  | wraps =>
    have few := exact rfl
    rw [Overflow.numbered_eq few, List.take_of_length_le (by omega)]

/-- Exact numbers leave it to the first line to name the format. -/
theorem Overflow.Exact.format_eq {o : Overflow} {texts : List String} (exact : o.Exact texts.length) :
    Format.after (o.numbered texts) = Format.ofLines (SignatureLint.numbered texts) := by
  rw [exact.numbered_eq, Format.after_numbered, Format.ofLines_take texts (by decide)]

/-- What a class was read in is what the first line names. -/
theorem Overflow.Exact.format_before {o : Overflow} {texts : List String} (exact : o.Exact texts.length)
    {before after : List Line} {header : Line} (split : o.numbered texts = before ++ header :: after)
    (unnamed : header.version? = none) : Format.after before = Format.ofLines (SignatureLint.numbered texts) := by
  have front : before ++ [header] <+: SignatureLint.numbered (texts.take (UInt32.size - 1)) :=
    ⟨after, by rw [← exact.numbered_eq, split, List.append_assoc, List.singleton_append]⟩
  have lines := List.prefix_iff_eq_take.mp front
  rw [take_numbered, List.length_append, List.length_singleton] at lines
  have same : Format.after (before ++ [header]) = Format.after before := by
    rw [Format.after_snoc, Line.format?_eq_none unnamed, Option.getD_none]
  rw [← same, lines, Format.after_numbered, Format.ofLines_take _ (Nat.succ_pos _), Format.ofLines_take _ (by decide)]

/-- Past 2^32 lines a counter that starts again is at one, and a line can name another format. -/
theorem Reader.format_after?_wraps {file : String} {texts : List String} {text : String} {version : List Char}
    (many : texts.length = UInt32.size) (names : (Line.ofText 1 text).version? = some version) :
    ∃ r, after? .wraps file (texts ++ [text]) = some r ∧ r.format = (Format.ofHeaderVersion? version).getD .v2 := by
  have number : (texts.length + 1) % UInt32.size = 1 := by rw [many]; decide
  have snoc : Overflow.wraps.numbered (texts ++ [text]) = Overflow.wraps.numbered texts ++ [.ofText 1 text] := by
    rw [Overflow.numbered, Overflow.numbered, List.mapIdx_concat, number]
  refine ⟨_, congrArg Prod.snd (feedAll?_wraps file (texts ++ [text])).1, ?_⟩
  rw [snoc, takeAll_snoc, format_take, Line.format?, names]
  rfl

/-! ## The end of a stream -/

/-- A stream that has ended stays as it is. -/
theorem Stream.next?_of_ended {o : Overflow} {s left : Stream} (handed : s.next? o = some (none, left)) :
    left.next? o = some (none, left) := by
  fun_induction Stream.next? o s with
  | case1 reader =>
    cases handed
    rw [next?, Reader.finish_finish]
  | case2 => cases handed
  | case3 => cases handed
  | case4 _ _ _ _ _ ih => exact ih handed

/-- Every further call answers no class, and changes nothing. -/
theorem Stream.iterate_next?_of_ended {o : Overflow} {s left : Stream} (handed : s.next? o = some (none, left))
    (n : Nat) : (fun answer => answer.bind fun (_, t) => t.next? o)^[n] (some (none, left)) = some (none, left) :=
  Function.iterate_fixed (Stream.next?_of_ended handed) n

/-- A package line stands between the header of a class and its member, and another cannot be read. -/
def crossedLines : List String := [
  "package a \x7b", "  class B extends C \x7b", "package c \x7b", "    field public int x;", "  \x7d",
  "  class D.E \x7b", "    method public void f(", "    ctor D();", "  \x7d", "package", "  class F \x7b", "  \x7d"]

end SignatureLint
