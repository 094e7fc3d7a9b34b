import SignatureLint.Dump.Stream

/-!
# Reading and where a declaration stood

A declaration keeps where it stood apart from what it says. `Class.mapOrigin f` changes the origins of a
class and of its members and nothing else. Two readers are `Alike` up to `f` if they differ, in what
decides the reading of further lines, only by origins that `f` makes equal. Readers that are alike stay so,
and end like classes, on lines with one text and like origins (`Reader.Alike.feedLine`): where a line
stood decides nothing but the origin of what it declares.
-/

namespace SignatureLint

/-- Readings that come to the same both fail, with one error, or both succeed. -/
theorem cases_of_map_eq {ε α β γ : Type} {x : Except ε α} {y : Except ε β} {f : α → γ} {g : β → γ}
    (same : x.map f = y.map g) :
    (∃ e, x = .error e ∧ y = .error e) ∨ ∃ a b, x = .ok a ∧ y = .ok b ∧ f a = g b := by
  cases x with
  | error e =>
    cases y with
    | error e' => exact .inl ⟨e, rfl, congrArg Except.error (Except.error.inj same).symm⟩
    | ok b => cases same
  | ok a =>
    cases y with
    | error e' => cases same
    | ok b => exact .inr ⟨a, b, rfl, rfl, Except.ok.inj same⟩

namespace Method

def mapOrigin (f : Origin → Origin) (m : Method) : Method := { m with origin := f m.origin }

end Method

namespace Field

def mapOrigin (f : Origin → Origin) (d : Field) : Field := { d with origin := f d.origin }

end Field

namespace Class

/-- The class with its origin and those of its members changed. -/
def mapOrigin (f : Origin → Origin) (c : Class) : Class :=
  { c with
    origin := f c.origin
    methods := c.methods.map (Method.mapOrigin f)
    fields := c.fields.map (Field.mapOrigin f) }

variable {f : Origin → Origin} {c d : Class}

theorem className_mapOrigin : (c.mapOrigin f).className = c.className := rfl

/-- What the reading of a member asks of its class is not where the class stood. -/
theorem members_alike (same : c.mapOrigin f = d.mapOrigin f) :
    c.format = d.format ∧ c.isAnnotationType = d.isAnnotationType ∧ c.fullname = d.fullname :=
  ⟨(congrArg Class.format same :), (congrArg (fun e : Class => e.isAnnotationType) same :),
    (congrArg Class.fullname same :)⟩

end Class

namespace Scope

def mapOrigin (f : Origin → Origin) : Scope → Scope
  | .outside => .outside
  | .inside c => .inside (c.mapOrigin f)
  | .skipping => .skipping

/-- Scopes that are alike are of one kind. -/
theorem mapOrigin_cases {f : Origin → Origin} {a b : Scope} (same : a.mapOrigin f = b.mapOrigin f) :
    (a = .outside ∧ b = .outside) ∨ (a = .skipping ∧ b = .skipping) ∨
      ∃ c d, a = .inside c ∧ b = .inside d ∧ c.mapOrigin f = d.mapOrigin f := by
  cases a with
  | outside =>
    cases b with
    | outside => exact .inl ⟨rfl, rfl⟩
    | inside d => cases same
    | skipping => cases same
  | inside c =>
    cases b with
    | outside => cases same
    | inside d => exact .inr (.inr ⟨c, d, rfl, rfl, Scope.inside.inj same⟩)
    | skipping => cases same
  | skipping =>
    cases b with
    | outside => cases same
    | inside d => cases same
    | skipping => exact .inr (.inl ⟨rfl, rfl⟩)

end Scope

/-! ## Declarations that say the same -/

section

variable {f : Origin → Origin} {line line' : Line} (origin : f line.origin = f line'.origin)

include origin

/-- Lines with one header declare like classes. -/
theorem Class.read_alike_of_header {package package' : Package} (name : package.name = package'.name) {format : Format}
    (said : ClassHeader.read format line = ClassHeader.read format line') :
    (Class.read package format line).map (mapOrigin f) = (Class.read package' format line').map (mapOrigin f) := by
  unfold Class.read
  rw [said]
  cases ClassHeader.read format line' with
  | error e => rfl
  | ok header =>
    show Except.ok _ = Except.ok _
    rw [Class.mapOrigin, Class.mapOrigin]
    dsimp only
    rw [name, origin]

/-- Lines with one signature declare like methods of like classes. -/
theorem Method.read_alike_of_signature {c d : Class} (same : c.mapOrigin f = d.mapOrigin f)
    (said : MethodSignature.read d.format d.isAnnotationType line =
      MethodSignature.read d.format d.isAnnotationType line') :
    (Method.read c line).map (mapOrigin f) = (Method.read d line').map (mapOrigin f) := by
  obtain ⟨format, annotation, fullname⟩ := Class.members_alike same
  unfold Method.read
  rw [format, annotation, fullname, said]
  cases MethodSignature.read d.format d.isAnnotationType line' with
  | error e => rfl
  | ok signature =>
    show Except.ok _ = Except.ok _
    rw [Method.mapOrigin, Method.mapOrigin]
    dsimp only
    rw [origin]

/-- Lines with one signature declare like fields of like classes. -/
theorem Field.read_alike_of_signature {c d : Class} (same : c.mapOrigin f = d.mapOrigin f)
    (said : FieldSignature.read d.format line = FieldSignature.read d.format line') :
    (Field.read c line).map (mapOrigin f) = (Field.read d line').map (mapOrigin f) := by
  obtain ⟨format, -, fullname⟩ := Class.members_alike same
  unfold Field.read
  rw [format, fullname, said]
  cases FieldSignature.read d.format line' with
  | error e => rfl
  | ok signature =>
    show Except.ok _ = Except.ok _
    rw [Field.mapOrigin, Field.mapOrigin]
    dsimp only
    rw [origin]

end

/-! ## Declarations from lines with one text -/

section

variable {f : Origin → Origin} {line line' : Line} (text : line.text = line'.text)

include text

theorem ClassHeader.read_congr (format : Format) : ClassHeader.read format line = ClassHeader.read format line' := by
  cases format with
  | v1 => simp only [ClassHeader.read, Line.plainTokens, Line.tokens, text]
  | v2 => simp only [ClassHeader.read, Line.tokens, text]

theorem MethodSignature.read_congr (format : Format) (inAnnotationType : Bool) :
    MethodSignature.read format inAnnotationType line = MethodSignature.read format inAnnotationType line' := by
  cases format with
  | v1 => simp only [MethodSignature.read, Line.plainTokens, Line.tokens, text]
  | v2 => simp only [MethodSignature.read, Line.tokens, text]

theorem FieldSignature.read_congr (format : Format) :
    FieldSignature.read format line = FieldSignature.read format line' := by
  cases format with
  | v1 => simp only [FieldSignature.read, Line.plainTokens, Line.tokens, text]
  | v2 => simp only [FieldSignature.read, Line.tokens, text]

theorem Line.shape_congr : line.shape = line'.shape := by
  have start : line.startsWith = line'.startsWith := by
    funext start
    rw [Line.startsWith, Line.startsWith, text]
  simp only [Line.shape, start, text]

/-- The name of a package is read from the text. -/
theorem Package.read_congr : (Package.read line).map Package.name = (Package.read line').map Package.name := by
  unfold Package.read
  rw [show line.tokens = line'.tokens by simp only [Line.tokens, text]]
  cases line'.tokens with
  | error e => rfl
  | ok tokens =>
    show Except.map Package.name (readTokens Grammar.packageHeader tokens >>= _) =
      Except.map Package.name (readTokens Grammar.packageHeader tokens >>= _)
    cases readTokens Grammar.packageHeader tokens <;> rfl

variable (origin : f line.origin = f line'.origin)

include origin

theorem Method.read_alike {c d : Class} (same : c.mapOrigin f = d.mapOrigin f) :
    (Method.read c line).map (mapOrigin f) = (Method.read d line').map (mapOrigin f) :=
  Method.read_alike_of_signature origin same (MethodSignature.read_congr text _ _)

theorem Field.read_alike {c d : Class} (same : c.mapOrigin f = d.mapOrigin f) :
    (Field.read c line).map (mapOrigin f) = (Field.read d line').map (mapOrigin f) :=
  Field.read_alike_of_signature origin same (FieldSignature.read_congr text _)

end

namespace Class

variable {f : Origin → Origin}

theorem mapOrigin_addMethod (c : Class) (m : Method) :
    Class.mapOrigin f { c with methods := c.methods ++ [m] } =
      { c.mapOrigin f with methods := (c.mapOrigin f).methods ++ [m.mapOrigin f] } := by
  simp only [mapOrigin, List.map_append, List.map_cons, List.map_nil]

theorem mapOrigin_addField (c : Class) (d : Field) :
    Class.mapOrigin f { c with fields := c.fields ++ [d] } =
      { c.mapOrigin f with fields := (c.mapOrigin f).fields ++ [d.mapOrigin f] } := by
  simp only [mapOrigin, List.map_append, List.map_cons, List.map_nil]

section

variable {c d : Class} (same : c.mapOrigin f = d.mapOrigin f)

include same

theorem addMethod_alike {m m' : Method} (sameMember : m.mapOrigin f = m'.mapOrigin f) :
    Class.mapOrigin f { c with methods := c.methods ++ [m] } =
      Class.mapOrigin f { d with methods := d.methods ++ [m'] } := by
  rw [mapOrigin_addMethod, mapOrigin_addMethod, same, sameMember]

theorem addField_alike {x x' : Field} (sameMember : x.mapOrigin f = x'.mapOrigin f) :
    Class.mapOrigin f { c with fields := c.fields ++ [x] } =
      Class.mapOrigin f { d with fields := d.fields ++ [x'] } := by
  rw [mapOrigin_addField, mapOrigin_addField, same, sameMember]

end

/-- What is made of members that were read alike is alike if like members make like classes. -/
theorem map_alike {μ : Type} {mapMember : μ → μ} {read read' : Except DeclarationError μ} (add add' : μ → Class)
    (same : read.map mapMember = read'.map mapMember)
    (adds : ∀ m m', mapMember m = mapMember m' → (add m).mapOrigin f = (add' m').mapOrigin f) :
    (read.map add).map (mapOrigin f) = (read'.map add').map (mapOrigin f) := by
  rcases cases_of_map_eq same with ⟨e, rfl, rfl⟩ | ⟨m, m', rfl, rfl, like⟩
  · rfl
  · exact congrArg Except.ok (adds m m' like)

end Class

/-! ## Readers -/

namespace Reader

/-- What decides the reading of further lines is the same but for origins that `f` makes equal. -/
structure Alike (f : Origin → Origin) (r s : Reader) : Prop where
  format : r.format = s.format
  package : r.package.map Package.name = s.package.map Package.name
  scope : r.scope.mapOrigin f = s.scope.mapOrigin f

/-- Like readers, and like classes that they hand out. -/
structure AlikeStep (f : Origin → Origin) (a b : Reader × Option Class) : Prop where
  reader : Alike f a.1 b.1
  ended : a.2.map (Class.mapOrigin f) = b.2.map (Class.mapOrigin f)

variable {f : Origin → Origin} {r s : Reader} {line line' : Line}

theorem Alike.refl (f : Origin → Origin) (r : Reader) : Alike f r r := ⟨rfl, rfl, rfl⟩

/-- The count of lines decides nothing. -/
theorem Alike.withLine (alike : Alike f r s) (m n : Nat) : Alike f { r with line := m } { s with line := n } :=
  ⟨alike.format, alike.package, alike.scope⟩

/-- A diagnostic decides nothing. -/
theorem Alike.report (alike : Alike f r s) (problem problem' : Problem) :
    Alike f (r.report line problem) (s.report line' problem') :=
  ⟨alike.format, alike.package, alike.scope⟩

theorem Alike.withScope (alike : Alike f r s) {scope scope' : Scope} (same : scope.mapOrigin f = scope'.mapOrigin f) :
    Alike f { r with scope } { s with scope := scope' } :=
  ⟨alike.format, alike.package, same⟩

theorem Alike.dropOpen (alike : Alike f r s) : Alike f r.dropOpen s.dropOpen := by
  rcases Scope.mapOrigin_cases alike.scope with ⟨hr, hs⟩ | ⟨hr, hs⟩ | ⟨c, d, hr, hs, -⟩
  · simpa only [Reader.dropOpen, hr, hs] using alike
  · simpa only [Reader.dropOpen, hr, hs] using alike
  · simp only [Reader.dropOpen, hr, hs]
    exact ⟨alike.format, alike.package, rfl⟩

theorem Alike.close (alike : Alike f r s) : AlikeStep f r.close s.close := by
  rcases Scope.mapOrigin_cases alike.scope with ⟨hr, hs⟩ | ⟨hr, hs⟩ | ⟨c, d, hr, hs, same⟩
  · simp only [Reader.close, hr, hs]
    exact ⟨alike.withScope rfl, rfl⟩
  · simp only [Reader.close, hr, hs]
    exact ⟨alike.withScope rfl, rfl⟩
  · simp only [Reader.close, hr, hs]
    exact ⟨alike.withScope rfl, congrArg some same⟩

section

variable (alike : Alike f r s)

include alike

/-- Lines with one header open like classes. -/
theorem Alike.readClass (origin : f line.origin = f line'.origin)
    (said : ClassHeader.read s.format line = ClassHeader.read s.format line') :
    (r.readClass line).map (Class.mapOrigin f) = (s.readClass line').map (Class.mapOrigin f) := by
  have name := alike.package
  unfold Reader.readClass
  rw [alike.format]
  cases hr : r.package with
  | none =>
    cases hs : s.package with
    | none => rfl
    | some package' => rw [hr, hs] at name; cases name
  | some package =>
    cases hs : s.package with
    | none => rw [hr, hs] at name; cases name
    | some package' =>
      rw [hr, hs] at name
      dsimp only
      rcases cases_of_map_eq (Class.read_alike_of_header origin (Option.some.inj name) said) with
        ⟨e, hc, hd⟩ | ⟨c, d, hc, hd, like⟩
      · rw [hc, hd]
      · rw [hc, hd]
        exact congrArg Except.ok like

/-- Members that are read alike leave like classes open. -/
theorem Alike.addMember {add add' : Class → Except DeclarationError Class}
    (adds : ∀ c d : Class, c.mapOrigin f = d.mapOrigin f →
      (add c).map (Class.mapOrigin f) = (add' d).map (Class.mapOrigin f)) :
    Alike f (r.addMember line add) (s.addMember line' add') := by
  rcases Scope.mapOrigin_cases alike.scope with ⟨hr, hs⟩ | ⟨hr, hs⟩ | ⟨c, d, hr, hs, same⟩
  · simp only [Reader.addMember, hr, hs]
    exact alike.report _ _
  · simpa only [Reader.addMember, hr, hs] using alike
  · simp only [Reader.addMember, hr, hs]
    rcases cases_of_map_eq (adds c d same) with ⟨e, hc, hd⟩ | ⟨c', d', hc, hd, like⟩
    · rw [hc, hd]
      exact alike.report _ _
    · rw [hc, hd]
      exact alike.withScope (congrArg Scope.inside like)

variable (text : line.text = line'.text)

include text

theorem Alike.openPackage : Alike f (r.openPackage line) (s.openPackage line') := by
  unfold Reader.openPackage
  rcases cases_of_map_eq (Package.read_congr text) with ⟨e, hr, hs⟩ | ⟨package, package', hr, hs, name⟩
  · rw [hr, hs]
    exact ⟨alike.format, rfl, alike.scope⟩
  · rw [hr, hs]
    exact ⟨alike.format, congrArg some name, alike.scope⟩

variable (origin : f line.origin = f line'.origin)

include origin

theorem Alike.openClass : Alike f (r.openClass line) (s.openClass line') := by
  have dropped := alike.dropOpen
  unfold Reader.openClass
  dsimp only
  rcases cases_of_map_eq (dropped.readClass origin (ClassHeader.read_congr text _)) with
    ⟨problem, hr, hs⟩ | ⟨c, d, hr, hs, like⟩
  · rw [hr, hs]
    exact (dropped.report problem problem).withScope rfl
  · rw [hr, hs]
    exact dropped.withScope (congrArg Scope.inside like)

/-- **Readers that are alike stay alike**, and hand out like classes. -/
theorem Alike.feedLine : AlikeStep f (r.feedLine line) (s.feedLine line') := by
  unfold Reader.feedLine
  rw [Line.shape_congr text]
  cases line'.shape with
  | package => exact ⟨alike.openPackage text, rfl⟩
  | header => exact ⟨alike.openClass text origin, rfl⟩
  | method =>
    refine ⟨alike.addMember ?_, rfl⟩
    intro c d same
    exact Class.map_alike _ _ (Method.read_alike text origin same) fun m m' => Class.addMethod_alike same
  | field =>
    refine ⟨alike.addMember ?_, rfl⟩
    intro c d same
    exact Class.map_alike _ _ (Field.read_alike text origin same) fun x x' => Class.addField_alike same
  | close => exact alike.close
  | other => exact ⟨alike, rfl⟩

end

end Reader

end SignatureLint
