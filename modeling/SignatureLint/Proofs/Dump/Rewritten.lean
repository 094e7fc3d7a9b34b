import SignatureLint.Proofs.Dump.Names
import SignatureLint.Proofs.Dump.Origin
import SignatureLint.Proofs.Dump.Respaced

/-!
# What a rewritten line says

A reader tells which lines declare something (`Reader.declares`). In format 2 each of them can be written anew
(`Reader.InFormat2.rewritten`): the new line has the shape, the tokens and the blame of the old
(`Line.Rewritten`), and what is read from it is what was read, but for the text that is kept of it.
-/

namespace SignatureLint

/-! ## Texts left out -/

/-- The origin, with the text left out on the chosen lines. -/
def Origin.withoutRaw (chosen : Nat → Bool) (o : Origin) : Origin := if chosen o.line then { o with raw := "" } else o

abbrev Class.withoutRaw (chosen : Nat → Bool) (c : Class) : Class := c.mapOrigin (Origin.withoutRaw chosen)

def Package.withoutRaw (chosen : Nat → Bool) (p : Package) : Package := { p with origin := p.origin.withoutRaw chosen }

/-- The diagnostic, with the text left out where it is that of a class declared on a chosen line. -/
def Diagnostic.withoutRaw (chosen : Nat → Bool) (d : Diagnostic) : Diagnostic :=
  match d.problem with
  | .unclosedClass _ => if chosen d.line then { d with raw := "" } else d
  | _ => d

/-- What is left of a class's header in a diagnostic is what is left of its origin. -/
theorem Diagnostic.withoutRaw_unclosedClass {chosen : Nat → Bool} {o o' : Origin} (file fullname : String)
    (same : o.withoutRaw chosen = o'.withoutRaw chosen) :
    Diagnostic.withoutRaw chosen (.ofText file o.line (.unclosedClass fullname) o.raw.toList) =
      Diagnostic.withoutRaw chosen (.ofText file o'.line (.unclosedClass fullname) o'.raw.toList) := by
  have line (o : Origin) : (o.withoutRaw chosen).line = o.line := by
    unfold Origin.withoutRaw
    split <;> rfl
  have number : o.line = o'.line := by rw [← line o, ← line o', same]
  by_cases isChosen : chosen o'.line = true
  · simp [withoutRaw, ofText, number, isChosen]
  · have equal : o = o' := by simpa [Origin.withoutRaw, number, isChosen] using same
    rw [equal]

/-! ## Lines written anew -/

namespace Reader

/-- Whether the line declares something where the reader stands. -/
def declares (r : Reader) (line : Line) : Bool :=
  match line.shape with
  | .package => (Package.read line).isOk
  | .header => (r.readClass line).isOk
  | .method => r.scope.current?.any fun c => (Method.read c line).isOk
  | .field => r.scope.current?.any fun c => (Field.read c line).isOk
  | _ => false

end Reader

variable {chosen : Nat → Bool} {r s : Reader} {line line' : Line}

theorem exists_of_isOk {ε α : Type} {x : Except ε α} (ok : x.isOk = true) : ∃ a, x = .ok a := by
  cases x with
  | error => cases ok
  | ok a => exact ⟨a, rfl⟩

/-- Nothing is declared where nothing is added. -/
theorem any_isOk_eq_false {μ : Type} {current : Option Class} {read : Class → Except DeclarationError μ}
    {add : Class → μ → Class} (fails : ∀ c, current = some c → ((read c).map (add c)).isOk = false) :
    (current.any fun c => (read c).isOk) = false := by
  cases current with
  | none => rfl
  | some c =>
    have fails := fails c rfl
    show (read c).isOk = false
    cases said : read c with
    | error e => rfl
    | ok m =>
      rw [said] at fails
      cases fails

/-- The reader reads format 2, and so does the class that is open. -/
structure Reader.InFormat2 (r : Reader) : Prop where
  format : r.format = .v2
  current : ∀ c, r.scope.current? = some c → c.format = .v2

/-! ### What lines that declare something are made of -/

theorem Package.declares_of_read {p : Package} (read : Package.read line = .ok p) :
    ∃ ts, line.tokens = .ok ts ∧ Line.Declares .package ts := by
  obtain ⟨ts, scanned, read⟩ := Grammar.bind_eq_ok.mp read
  obtain ⟨⟨name, modifiers⟩, headed, -⟩ := Grammar.bind_eq_ok.mp read
  refine ⟨ts, scanned, ?_⟩
  have spelled := (Grammar.packageLine_of_packageHeader (mapError_eq_ok.mp headed))
  cases spelled with
  | line annotations =>
    cases annotations with
    | more => exact .package (by decide)
    | done =>
      refine .package ?_
      intro bracket
      have spelled := Line.isSpelled_of_tokens scanned (List.mem_cons_of_mem _ List.mem_cons_self)
      exact absurd (spelled '(' (List.mem_of_mem_head? bracket)) (by decide)

theorem Class.declares_of_read {package : Package} {c : Class} (read : Class.read package .v2 line = .ok c) :
    ∃ ts, line.tokens = .ok ts ∧ Line.Declares .header ts := by
  obtain ⟨header, headed, -⟩ := map_eq_ok.mp read
  obtain ⟨ts, scanned, headed⟩ := Grammar.bind_eq_ok.mp headed
  obtain ⟨kind, written⟩ := Grammar.classHeader_eq_ok.mp (mapError_eq_ok.mp headed)
  exact ⟨ts, scanned, .header written.brace_suffix⟩

theorem Method.exists_tokens_of_read {c : Class} {m : Method} (format : c.format = .v2)
    (read : Method.read c line = .ok m) :
    ∃ ts, line.tokens = .ok ts ∧ Grammar.method c.isAnnotationType ts = .ok m.toMethodSignature := by
  obtain ⟨signature, said, rfl⟩ := map_eq_ok.mp read
  rw [format] at said
  obtain ⟨ts, scanned, said⟩ := Grammar.bind_eq_ok.mp said
  exact ⟨ts, scanned, mapError_eq_ok.mp said⟩

theorem Field.exists_tokens_of_read {c : Class} {d : Field} (format : c.format = .v2)
    (read : Field.read c line = .ok d) :
    ∃ ts, line.tokens = .ok ts ∧ Grammar.field ts = .ok d.toFieldSignature := by
  obtain ⟨signature, said, rfl⟩ := map_eq_ok.mp read
  rw [format] at said
  obtain ⟨ts, scanned, said⟩ := Grammar.bind_eq_ok.mp said
  exact ⟨ts, scanned, mapError_eq_ok.mp said⟩

theorem Method.declares_of_read {c : Class} {m : Method} (format : c.format = .v2) (read : Method.read c line = .ok m) :
    ∃ ts, line.tokens = .ok ts ∧ Line.Declares .method ts := by
  obtain ⟨ts, scanned, said⟩ := Method.exists_tokens_of_read format read
  obtain ⟨⟨kind, rest⟩, chosen, -⟩ := Grammar.bind_eq_ok.mp said
  exact ⟨ts, scanned, Grammar.eq_of_choose chosen ▸ .method kind⟩

theorem Field.declares_of_read {c : Class} {d : Field} (format : c.format = .v2) (read : Field.read c line = .ok d) :
    ∃ ts, line.tokens = .ok ts ∧ Line.Declares .field ts := by
  obtain ⟨ts, scanned, said⟩ := Field.exists_tokens_of_read format read
  obtain ⟨⟨kind, rest⟩, chosen, -⟩ := Grammar.bind_eq_ok.mp said
  exact ⟨ts, scanned, Grammar.eq_of_choose chosen ▸ .field kind⟩

/-- In format 2, a line that declares something is made of tokens that it can be written anew with. -/
theorem Reader.InFormat2.declares (inFormat2 : r.InFormat2) (declares : r.declares line = true) :
    ∃ ts, line.tokens = .ok ts ∧ Line.Declares line.shape ts := by
  unfold Reader.declares at declares
  split at declares
  next shape =>
    rw [shape]
    obtain ⟨p, read⟩ := exists_of_isOk declares
    exact Package.declares_of_read read
  next shape =>
    rw [shape]
    obtain ⟨c, read⟩ := exists_of_isOk declares
    unfold Reader.readClass at read
    split at read
    next =>
      rw [inFormat2.format] at read
      exact Class.declares_of_read (mapError_eq_ok.mp read)
    next => cases read
  next shape =>
    rw [shape]
    obtain ⟨c, current, ok⟩ := (Option.any_eq_true _ _).mp declares
    obtain ⟨m, read⟩ := exists_of_isOk ok
    exact Method.declares_of_read (inFormat2.current c current) read
  next shape =>
    rw [shape]
    obtain ⟨c, current, ok⟩ := (Option.any_eq_true _ _).mp declares
    obtain ⟨d, read⟩ := exists_of_isOk ok
    exact Field.declares_of_read (inFormat2.current c current) read
  next => cases declares

/-! ### Readings that come to the same -/

/-- What a line says of a member is told by its tokens. -/
theorem MethodSignature.read_congr_tokens (format : Format) (inAnnotationType : Bool)
    (same : line'.tokens = line.tokens) :
    MethodSignature.read format inAnnotationType line' = MethodSignature.read format inAnnotationType line := by
  cases format <;> simp only [MethodSignature.read, Line.plainTokens, same]

theorem FieldSignature.read_congr_tokens (format : Format) (same : line'.tokens = line.tokens) :
    FieldSignature.read format line' = FieldSignature.read format line := by
  cases format <;> simp only [FieldSignature.read, Line.plainTokens, same]

/-- The line as it is, or written anew where it declares something: the same tokens, and the same origin but for
the text that may be left out. -/
structure Line.Rewritten (chosen : Nat → Bool) (r : Reader) (line line' : Line) : Prop where
  number : line'.number = line.number
  shape : line'.shape = line.shape
  tokens : line'.tokens = line.tokens
  origin : line.origin.withoutRaw chosen = line'.origin.withoutRaw chosen
  same : line' = line ∨ r.declares line = true

namespace Line.Rewritten

theorem refl (chosen : Nat → Bool) (r : Reader) (line : Line) : Rewritten chosen r line line :=
  ⟨rfl, rfl, rfl, rfl, .inl rfl⟩

variable (rewritten : Rewritten chosen r line line')

include rewritten

/-- Rewritten twice, a line is rewritten. -/
theorem trans {line'' : Line} (more : Rewritten chosen r line' line'') : Rewritten chosen r line line'' := by
  refine ⟨more.number.trans rewritten.number, more.shape.trans rewritten.shape, more.tokens.trans rewritten.tokens,
    rewritten.origin.trans more.origin, ?_⟩
  rcases rewritten.same with rfl | declares
  · exact more.same
  · exact .inr declares

/-- A line that declares nothing is as it was. -/
theorem eq_of_error (fails : r.declares line = false) : line' = line := by
  rcases rewritten.same with same | declares
  · exact same
  · rw [declares] at fails
    cases fails

theorem readPackage :
    (Package.read line).map (Package.withoutRaw chosen) = (Package.read line').map (Package.withoutRaw chosen) := by
  unfold Package.read
  rw [rewritten.tokens]
  cases line.tokens with
  | error e => rfl
  | ok tokens =>
    show Except.map _ (readTokens Grammar.packageHeader tokens >>= _) =
      Except.map _ (readTokens Grammar.packageHeader tokens >>= _)
    cases readTokens Grammar.packageHeader tokens with
    | error e => rfl
    | ok header =>
      show Except.ok _ = Except.ok _
      rw [Package.withoutRaw, Package.withoutRaw]
      dsimp only
      rw [rewritten.origin]

theorem readHeader : ClassHeader.read .v2 line = ClassHeader.read .v2 line' := by
  simp only [ClassHeader.read, rewritten.tokens]

theorem readMethod (inAnnotationType : Bool) :
    MethodSignature.read .v2 inAnnotationType line = MethodSignature.read .v2 inAnnotationType line' :=
  (MethodSignature.read_congr_tokens .v2 inAnnotationType rewritten.tokens).symm

theorem readField : FieldSignature.read .v2 line = FieldSignature.read .v2 line' :=
  (FieldSignature.read_congr_tokens .v2 rewritten.tokens).symm

end Line.Rewritten

/-- **A line that declares something can be written anew.** -/
theorem Reader.InFormat2.rewritten (inFormat2 : r.InFormat2) {n : Nat} {text : String} (isChosen : chosen n = true)
    (declares : r.declares (Line.ofText n text) = true) :
    Line.Rewritten chosen r (Line.ofText n text) (Line.ofText n (Line.respaced text)) := by
  obtain ⟨ts, scanned, made⟩ := inFormat2.declares declares
  obtain ⟨line', same, blame, shape, tokens⟩ := made.respaced scanned
  have number := Line.number_ofText n (Line.respaced text)
  have number' := Line.number_ofText n text
  rw [same] at number ⊢
  refine ⟨number.trans number'.symm, shape, tokens.trans scanned.symm, ?_, .inr declares⟩
  simp only [Origin.withoutRaw, Line.origin, number, number', isChosen, blame, if_true]

end SignatureLint
