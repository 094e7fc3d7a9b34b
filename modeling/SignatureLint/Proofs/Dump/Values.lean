import Mathlib.Logic.Relation
import SignatureLint.Proofs.Dump.BlankLines
import SignatureLint.Proofs.Dump.Reformatted
import SignatureLint.Proofs.Grammar.Slot
import SignatureLint.Proofs.Token.Splice

/-!
# Values put back as they were read

A value is kept as the text of its tokens, with one space between two of them. `Line.splice` puts a text in the place
of some tokens of a line, and `Class.ValuePlace` tells where a member's line has its values. With the text that was
read put in such a place, the line has the tokens that it had (`Line.Spells.tokens_splice`) and declares the same
member. So the lines of a dump with values put back (`Reader.Reemitted`) are rewritten lines, and the dump declares what
it declared, but for the text that is kept of them. `values_reemitted` says both.
-/

namespace SignatureLint

open Grammar (ValueIn ValueSyntax)

/-! ## Lines with another text in a place -/

namespace Text

/-- Whether blanks end a text is told by any end of it. -/
theorem trimEnd_append_of_eq_self {front front' back : List Char} (trimmed : trimEnd (front ++ back) = front ++ back)
    (filled : back ≠ []) : trimEnd (front' ++ back) = front' ++ back := by
  rw [trimEnd_eq_rdropWhile, List.rdropWhile_eq_self_iff] at trimmed ⊢
  intro given
  rw [List.getLast_append_of_ne_nil given filled]
  have last := trimmed (List.append_ne_nil_of_right_ne_nil front filled)
  rwa [List.getLast_append_of_ne_nil _ filled] at last

end Text

namespace Line

/-- The line with `other` in the place of some of its tokens: of those behind the first `start` the first `count`. -/
def splice (line : Line) (start count : Nat) (other : String) : Line :=
  { line with text := Token.splice start count other.toList line.text }

/-- The text of a dump with `other` in the place of some tokens of its line. A blame stays before it. -/
def spliceText (start count : Nat) (other text : String) : String :=
  String.ofList (blamePrefix text ++ ((ofText 0 text).splice start count other).text)

/-- Some tokens of the line, `count` behind the first `start`, have the text `v`. The one before them announces a value,
and another one follows them. -/
inductive Spells (line : Line) : Nat → Nat → String → Prop where
  | tokens {before written after : List Token} {t : Token} :
    t.Announces → written ≠ [] → after ≠ [] → line.tokens = .ok (before ++ t :: (written ++ after)) →
      Spells line (before.length + 1) written.length (spaced written)

variable {line : Line} {start count n : Nat} {v text : String}

/-- **Put back as it was read, a value leaves the line its tokens.** -/
theorem Spells.tokens_splice (spells : line.Spells start count v) :
    (line.splice start count v).tokens = line.tokens := by
  cases spells with
  | tokens announces filled _ scanned =>
    have again := Token.scan_splice announces filled (mapError_eq_ok.mp (mapError_eq_ok.mp scanned))
    exact (mapError_eq_ok.mpr (mapError_eq_ok.mpr again)).trans scanned.symm

/-- Put back again, it changes nothing. -/
theorem Spells.splice_splice (spells : line.Spells start count v) :
    (line.splice start count v).splice start count v = line.splice start count v := by
  cases spells with
  | tokens announces filled _ scanned =>
    have same := Token.splice_splice announces filled (mapError_eq_ok.mp (mapError_eq_ok.mp scanned))
    simp only [splice, same]

/-- What stands before the place and behind it. -/
theorem Spells.exists_splice_eq (spells : line.Spells start count v) :
    ∃ (t : Token) (front part left : List Char),
      t.Announces ∧ line.text = front ++ (part ++ left) ∧ t.text.toList ⊆ front ∧ left ≠ [] ∧
      (line.splice start count v).text = front ++ (v.toList ++ left) := by
  cases spells with
  | @tokens before written after t announces filled followed scanned =>
    obtain ⟨front, part, left, ⟨same, chars, ends⟩, spliced, -⟩ :=
      Token.exists_place announces filled (mapError_eq_ok.mp (mapError_eq_ok.mp scanned))
    exact ⟨t, front, part, left, announces, same, chars, fun ended => followed (ends ended), spliced _⟩

/-- The start of a member's line stands before its values. -/
theorem Spells.startsWith_splice (spells : line.Spells start count v) {s : String}
    (mem : s ∈ methodStarts ++ fieldStarts) (starts : line.startsWith s = true) :
    (line.splice start count v).startsWith s = true := by
  obtain ⟨t, front, part, left, announces, same, chars, -, spliced⟩ := spells.exists_splice_eq
  rw [startsWith_iff] at starts ⊢
  rw [same] at starts
  rw [spliced]
  rcases List.prefix_or_prefix_of_prefix starts (List.prefix_append front _) with before | inside
  · exact before.trans (List.prefix_append _ _)
  · -- no start has the characters of a token that announces a value
    have apart : ∀ s ∈ methodStarts ++ fieldStarts, ¬ t.text.toList ⊆ s.toList := by
      rcases announces with rfl | rfl <;> decide
    exact absurd (List.Subset.trans chars inside.subset) (apart s mem)

theorem Spells.shape_splice (spells : line.Spells start count v) (member : line.MemberShaped) :
    (line.splice start count v).shape = line.shape := by
  rcases memberShaped_iff.mp member with method | field
  · obtain ⟨s, mem, starts⟩ := method
    have kept := spells.startsWith_splice (List.mem_append_left _ mem) starts
    exact (MethodShaped.shape_eq ⟨s, mem, kept⟩).trans (MethodShaped.shape_eq ⟨s, mem, starts⟩).symm
  · obtain ⟨s, mem, starts⟩ := field
    have kept := spells.startsWith_splice (List.mem_append_right _ mem) starts
    exact (FieldShaped.shape_eq ⟨s, mem, kept⟩).trans (FieldShaped.shape_eq ⟨s, mem, starts⟩).symm

/-- The blame and the text of a line are what its text in the dump is without the blanks that end it. -/
theorem blamePrefix_append_text (n : Nat) (text : String) :
    blamePrefix text ++ (ofText n text).text = Text.trimEnd text.toList := by
  unfold blamePrefix ofText
  dsimp only
  cases found : Blame.split? (Text.trimEnd text.toList) with
  | none => rfl
  | some parts =>
    obtain ⟨before, same, -⟩ := Blame.exists_prefix found
    dsimp only
    rw [same, List.length_append, Nat.add_sub_cancel, List.take_left]

/-- The line of a text in which a value is put back is the line with the value put back. -/
theorem Spells.ofText_spliceText (member : (ofText n text).MemberShaped)
    (spells : (ofText n text).Spells start count v) :
    ofText n (spliceText start count v text) = (ofText n text).splice start count v := by
  obtain ⟨t, front, part, left, -, same, -, filled, spliced⟩ := spells.exists_splice_eq
  have trimmed : Text.trimEnd (blamePrefix text ++ ((ofText n text).splice start count v).text) =
      blamePrefix text ++ ((ofText n text).splice start count v).text := by
    have trimmed : Text.trimEnd (Text.trimEnd text.toList) = Text.trimEnd text.toList :=
      List.rdropWhile_idempotent Text.isBlank text.toList
    rw [← blamePrefix_append_text n text, same, ← List.append_assoc, ← List.append_assoc] at trimmed
    rw [spliced, ← List.append_assoc, ← List.append_assoc]
    exact Text.trimEnd_append_of_eq_self trimmed filled
  have noBlame : Blame.split? ((ofText n text).splice start count v).text = none := by
    obtain ⟨s, mem, starts⟩ := member
    obtain ⟨more, four⟩ := startsWith_iff.mp
      (startsWith_of_begins (memberStarts_four s mem) (spells.startsWith_splice mem starts))
    rw [← four]
    exact Blame.split?_eq_none_of_indented _
  have filledText : ((ofText n text).splice start count v).text ≠ [] := by
    rw [spliced]
    simp [filled]
  have unnumbered : (ofText 0 text).text = (ofText n text).text := by rw [ofText_number n text]
  have made : spliceText start count v text =
      String.ofList (blamePrefix text ++ ((ofText n text).splice start count v).text) := by
    rw [spliceText, splice, splice, unnumbered]
  rw [made, ofText_blamePrefix_append filledText noBlame trimmed, ofText_number n text]
  rfl

end Line

/-! ## Members with their values -/

/-- The values that a member can have. -/
inductive MemberValue where
  /-- The value of a field. -/
  | field
  /-- The value of the parameter with this index. -/
  | parameter (index : Nat)
  /-- The default of an element of an annotation type. -/
  | default

/-- The line declares a member of the class, and this one of its values is `v`. It is written with `count` tokens behind
the first `start`, for with any other expression there the same is declared with that value. -/
inductive Class.ValuePlace (owner : Class) (line : Line) : MemberValue → Nat → Nat → String → Prop where
  | field {f : Field} {tokens before written after : List Token} :
    Field.read owner line = .ok f → f.value = some (spaced written) → line.tokens = .ok tokens →
      ValueIn .field (fun ts text => Grammar.field ts = .ok { f.toFieldSignature with value := some text })
        tokens before written after →
      ValuePlace owner line .field (before.length + 1) written.length (spaced written)
  | parameter {m : Method} {i : Nat} {p : Parameter} {tokens before written after : List Token} :
    Method.read owner line = .ok m → m.parameters[i]? = some p → p.value = some (spaced written) →
      line.tokens = .ok tokens →
      ValueIn .parameter (fun ts text => Grammar.method owner.isAnnotationType ts = .ok
          { m.toMethodSignature with parameters := m.parameters.set i { p with value := some text } })
        tokens before written after →
      ValuePlace owner line (.parameter i) (before.length + 1) written.length (spaced written)
  | default {m : Method} {tokens before written after : List Token} :
    Method.read owner line = .ok m → m.value = some (spaced written) → line.tokens = .ok tokens →
      ValueIn .default (fun ts text => Grammar.method owner.isAnnotationType ts = .ok
          { m.toMethodSignature with value := some text })
        tokens before written after →
      ValuePlace owner line .default (before.length + 1) written.length (spaced written)

section

variable {owner : Class} {line line' : Line} {which : MemberValue} {start count : Nat} {v : String}

theorem Grammar.ValueIn.spells {s : ValueSyntax} {Means : List Token → String → Prop}
    {tokens before written after : List Token} (value : ValueIn s Means tokens before written after)
    (announces : s.announcer.Announces) (scanned : line.tokens = .ok tokens) :
    line.Spells (before.length + 1) written.length (spaced written) := by
  rw [value.tokens] at scanned
  refine .tokens announces value.expression.filled ?_ scanned
  rintro rfl
  obtain ⟨t, next, -⟩ := value.ends
  cases next

theorem Class.ValuePlace.spells (place : owner.ValuePlace line which start count v) : line.Spells start count v := by
  cases place with
  | field _ _ scanned value => exact value.spells (.inl rfl) scanned
  | parameter _ _ _ scanned value => exact value.spells (.inl rfl) scanned
  | default _ _ scanned value => exact value.spells (.inr rfl) scanned

/-- A field is told by the tokens of its line, and kept with the origin of the line. -/
theorem Field.read_congr_tokens {f : Field} (same : line'.tokens = line.tokens) (read : Field.read owner line = .ok f) :
    Field.read owner line' = .ok { f with origin := line'.origin } := by
  obtain ⟨signature, said, rfl⟩ := map_eq_ok.mp read
  rw [Field.read, FieldSignature.read_congr_tokens _ same, said]
  rfl

/-- So is a constructor or method. -/
theorem Method.read_congr_tokens {m : Method} (same : line'.tokens = line.tokens)
    (read : Method.read owner line = .ok m) : Method.read owner line' = .ok { m with origin := line'.origin } := by
  obtain ⟨signature, said, rfl⟩ := map_eq_ok.mp read
  rw [Method.read, MethodSignature.read_congr_tokens _ _ same, said]
  rfl

/-- The line keeps its number and its blame, so of its origin only the text changes. -/
theorem Line.origin_splice (line : Line) (start count : Nat) (v : String) :
    (line.splice start count v).origin = { line.origin with raw := (line.splice start count v).origin.raw } := rfl

/-! ### Each value has its place -/

theorem Field.exists_valuePlace {f : Field} (format : owner.format = .v2) (read : Field.read owner line = .ok f)
    (value : f.value = some v) : ∃ start count, owner.ValuePlace line .field start count v := by
  obtain ⟨tokens, scanned, said⟩ := Field.exists_tokens_of_read format read
  obtain ⟨before, written, after, place⟩ := Grammar.hasValue_field said value
  have means : f.value = some (spaced written) :=
    congrArg FieldSignature.value (Except.ok.inj (said.symm.trans place.means))
  rw [Option.some.inj (value.symm.trans means)]
  exact ⟨_, _, .field read means scanned place⟩

theorem Method.exists_parameterPlace {m : Method} {i : Nat} {p : Parameter} (format : owner.format = .v2)
    (read : Method.read owner line = .ok m) (given : m.parameters[i]? = some p) (value : p.value = some v) :
    ∃ start count, owner.ValuePlace line (.parameter i) start count v := by
  obtain ⟨tokens, scanned, said⟩ := Method.exists_tokens_of_read format read
  obtain ⟨before, written, after, place⟩ := Grammar.hasValue_parameter said given value
  have means : p.value = some (spaced written) := by
    have twice := congrArg MethodSignature.parameters (Except.ok.inj (said.symm.trans place.means))
    have inRange := (List.getElem?_eq_some_iff.mp given).1
    have again := (congrArg (·[i]?) twice).trans (List.getElem?_set_self inRange)
    exact congrArg Parameter.value (Option.some.inj (given.symm.trans again))
  rw [Option.some.inj (value.symm.trans means)]
  exact ⟨_, _, .parameter read given means scanned place⟩

theorem Method.exists_defaultPlace {m : Method} (format : owner.format = .v2) (read : Method.read owner line = .ok m)
    (value : m.value = some v) : ∃ start count, owner.ValuePlace line .default start count v := by
  obtain ⟨tokens, scanned, said⟩ := Method.exists_tokens_of_read format read
  obtain ⟨before, written, after, place⟩ := Grammar.hasValue_default said value
  have means : m.value = some (spaced written) :=
    congrArg MethodSignature.value (Except.ok.inj (said.symm.trans place.means))
  rw [Option.some.inj (value.symm.trans means)]
  exact ⟨_, _, .default read means scanned place⟩

end

/-! ## Dumps with their values put back -/

namespace Reader

/-- In a line that the reader reads as a member of the open class, one value is put back. -/
inductive PutsBack (r : Reader) (text : String) : String → Prop where
  | value {owner : Class} {which : MemberValue} {start count : Nat} {v : String} :
    r.scope = .inside owner → (Line.ofText (r.line + 1) text).MemberShaped →
      r.declares (Line.ofText (r.line + 1) text) = true →
      owner.ValuePlace (Line.ofText (r.line + 1) text) which start count v →
      PutsBack r text (Line.spliceText start count v text)

/-- The lines of a dump, and these lines with values of members put back: any number of them in any line. -/
inductive Reemitted : Reader → List String → List String → Prop where
  | nil {r : Reader} : Reemitted r [] []
  | line {r : Reader} {text text' : String} {texts texts' : List String} :
    Relation.ReflTransGen r.PutsBack text text' → Reemitted (r.feed text).1 texts texts' →
      Reemitted r (text :: texts) (text' :: texts')

variable {r : Reader} {text text' : String} {texts texts' : List String}

/-- A line with a value put back is read as it was, but for its text. -/
theorem PutsBack.rewritten (puts : r.PutsBack text text') :
    Line.Rewritten (fun _ => true) r (Line.ofText (r.line + 1) text) (Line.ofText (r.line + 1) text') := by
  cases puts with
  | value _ member declares place =>
    have spells := place.spells
    rw [spells.ofText_spliceText member]
    refine ⟨rfl, spells.shape_splice member, spells.tokens_splice, ?_, .inr declares⟩
    rw [Line.origin_splice]
    simp only [Origin.withoutRaw, if_true]

/-- So is a line with any number of values put back, one after the other. -/
theorem rewritten_of_putsBack (puts : Relation.ReflTransGen r.PutsBack text text') :
    Line.Rewritten (fun _ => true) r (Line.ofText (r.line + 1) text) (Line.ofText (r.line + 1) text') := by
  induction puts with
  | refl => exact .refl _ r _
  | tail _ step ih => exact ih.trans step.rewritten

/-- **Values put back are no more than lines rewritten.** -/
theorem Reemitted.rewrites (reemitted : r.Reemitted texts texts') : Rewrites (fun _ => true) r texts texts' := by
  induction reemitted with
  | nil => exact .nil
  | line puts _ ih => exact .line (rewritten_of_putsBack puts) ih

end Reader

/-- The identities of a class's fields do not tell where these stood. -/
theorem Class.fieldIdents_withoutRaw (chosen : Nat → Bool) (c : Class) :
    (c.withoutRaw chosen).fields.map (·.ident) = c.fields.map (·.ident) := by
  rw [withoutRaw, mapOrigin, List.map_map]
  rfl

/-- **What a value is read as can be put back.** In format 2 every value of a field, every value of a parameter and
every default of an element has its place in the line. If the text that was read as the value is put in that place, the
line declares the same member, with the same value, and only the text that is kept of the line is another. Put there
once more, it changes nothing. So a dump in which values are put back, any number of them in any of its lines, declares
the same classes but for these texts, and no identity of a field changes. -/
theorem values_reemitted :
    (∀ (owner : Class) (line : Line), owner.format = .v2 →
      (∀ f v, Field.read owner line = .ok f → f.value = some v →
        ∃ start count, owner.ValuePlace line .field start count v) ∧
      (∀ m i p v, Method.read owner line = .ok m → m.parameters[i]? = some p → p.value = some v →
        ∃ start count, owner.ValuePlace line (.parameter i) start count v) ∧
      (∀ m v, Method.read owner line = .ok m → m.value = some v →
        ∃ start count, owner.ValuePlace line .default start count v) ∧
      ∀ which start count v, owner.ValuePlace line which start count v →
        let line' := line.splice start count v
        line'.splice start count v = line' ∧
        (∀ f, Field.read owner line = .ok f →
          Field.read owner line' = .ok { f with origin := { f.origin with raw := line'.origin.raw } }) ∧
        ∀ m, Method.read owner line = .ok m →
          Method.read owner line' = .ok { m with origin := { m.origin with raw := line'.origin.raw } }) ∧
    ∀ (file : String) (texts texts' : List String), (Stream.ofLines file texts).drain.2.format = .v2 →
      (Reader.start file).Reemitted texts texts' →
      let before := (Stream.ofLines file texts).drain
      let after := (Stream.ofLines file texts').drain
      let all : Nat → Bool := fun _ => true
      after.1.map (Class.withoutRaw all) = before.1.map (Class.withoutRaw all) ∧
        after.1.map (fun c => c.fields.map (·.ident)) = before.1.map (fun c => c.fields.map (·.ident)) ∧
        after.2.packages.map (Package.withoutRaw all) = before.2.packages.map (Package.withoutRaw all) ∧
        after.2.diagnostics.map (Diagnostic.withoutRaw all) = before.2.diagnostics.map (Diagnostic.withoutRaw all) ∧
        after.2.format = before.2.format := by
  constructor
  · intro owner line format
    refine ⟨fun f v read value => Field.exists_valuePlace format read value,
      fun m i p v read given value => Method.exists_parameterPlace format read given value,
      fun m v read value => Method.exists_defaultPlace format read value, fun which start count v place => ?_⟩
    have same := place.spells.tokens_splice
    intro line'
    refine ⟨place.spells.splice_splice, ?_, ?_⟩
    · intro f read
      rw [Field.read_congr_tokens same read, Line.origin_splice, Reader.origin_of_readField read]
    · intro m read
      rw [Method.read_congr_tokens same read, Line.origin_splice, Reader.origin_of_readMethod read]
  · intro file texts texts' inFormat2 reemitted
    rw [Stream.ofLines, Stream.drain_eq] at inFormat2
    have read : ((Reader.start file).feedAll texts).1.format = .v2 := (Reader.format_dropOpen _).symm.trans inFormat2
    obtain ⟨alike, handed⟩ := Reader.matches_rewrites read reemitted.rewrites
    have finished := alike.dropOpen
    dsimp only
    rw [Stream.ofLines, Stream.ofLines, Stream.drain_eq, Stream.drain_eq]
    refine ⟨handed.symm, ?_, finished.packages.symm, finished.diagnostics.symm, finished.alike.format.symm⟩
    have idents := congrArg (List.map fun c : Class => c.fields.map (·.ident)) handed.symm
    simpa only [List.map_map, Function.comp_def, Class.fieldIdents_withoutRaw] using idents

/-- The place of a field's value, where `=` and `;` stand once each. -/
theorem Class.ValuePlace.eq_of_count {owner : Class} {line : Line} {start count : Nat} {v : String}
    {tokens : List Token} (place : owner.ValuePlace line .field start count v) (scanned : line.tokens = .ok tokens)
    (announced : tokens.count (.punct '=') = 1) (ended : tokens.count (.punct ';') = 1) :
    start = tokens.idxOf (.punct '=') + 1 ∧ start + count = tokens.idxOf (.punct ';') := by
  have idxOf {t : Token} {before after : List Token} (once : (before ++ t :: after).count t = 1) :
      (before ++ t :: after).idxOf t = before.length := by
    rw [List.count_append, List.count_cons_self] at once
    have absent : t ∉ before := List.count_eq_zero.mp (by omega)
    rw [List.idxOf_append_of_notMem absent, List.idxOf_cons_self, Nat.add_zero]
  cases place with
  | @field f tokens' before written after _ _ scanned' value =>
    cases scanned.symm.trans scanned'
    have split := value.tokens
    obtain ⟨t, next, isEnd⟩ := value.ends
    obtain ⟨after, rfl⟩ := List.head?_eq_some_iff.mp next
    have ending : t = .punct ';' := List.mem_singleton.mp isEnd
    have split' : tokens = before ++ .punct '=' :: written ++ .punct ';' :: after := by
      rw [split, ending, ← List.cons_append, ← List.append_assoc]
      rfl
    constructor
    · rw [split] at announced ⊢
      exact congrArg (· + 1) (idxOf announced).symm
    · rw [split'] at ended ⊢
      rw [idxOf ended, List.length_append, List.length_cons]
      omega

/-- The line of a field with a minus, a call and a number with an exponent in its value. -/
def valueLine : Line := Line.ofText 4 "    field public static final int K= -h( 1e-5 ); // ="

/-- What it declares. -/
def valueSignature : FieldSignature where
  modifiers := .ofList ["field", "final", "public", "static"]
  annotations := []
  type := "int"
  name := "K"
  value := some "- h ( 1e-5 )"

/-- A dump with the line. -/
def valueLines : List String := [
  "// Signature format: 2.0",
  "package p \x7b",
  "  @interface Range \x7b",
  "    field public static final int K= -h( 1e-5 ); // =",
  "  \x7d"]

/-- The same dump with the value put back. -/
def reemittedLines : List String := [
  "// Signature format: 2.0",
  "package p \x7b",
  "  @interface Range \x7b",
  "    field public static final int K= - h ( 1e-5 ); // =",
  "  \x7d"]

/-- The minus stays a minus, for a space comes to stand between it and the call. The values of a method have their
places too. -/
theorem values_reemitted_lines :
    elementOwner.format = .v2 ∧
      Field.read elementOwner valueLine =
        .ok { valueSignature with owner := elementOwner.fullname, origin := valueLine.origin } ∧
      elementOwner.ValuePlace valueLine .field 7 5 "- h ( 1e-5 )" ∧
      (∃ again, Field.read elementOwner (valueLine.splice 7 5 "- h ( 1e-5 )") = .ok again ∧
        again.toFieldSignature = valueSignature) ∧
      (∃ start count, elementOwner.ValuePlace elementLine (.parameter 1) start count "g ( 1 , 2 )") ∧
      (∃ start count, elementOwner.ValuePlace elementLine .default start count "\x7b \";\" \x7d") ∧
      (Stream.ofLines "api.txt" valueLines).drain.2.format = .v2 ∧
      (Reader.start "api.txt").Reemitted valueLines reemittedLines ∧
      (Stream.ofLines "api.txt" reemittedLines).drain.1.map (fun c => c.fields.map (·.ident)) =
        [["int-K-- h ( 1e-5 )"]] := by
  have said : FieldSignature.read .v2 valueLine = .ok valueSignature := Grammar.eq_ok_of_toOption (by decide +kernel)
  have read : Field.read elementOwner valueLine =
      .ok { valueSignature with owner := elementOwner.fullname, origin := valueLine.origin } :=
    map_eq_ok.mpr ⟨_, said, rfl⟩
  have saidMethod : MethodSignature.read .v2 true elementLine = .ok elementSignature :=
    Grammar.eq_ok_of_toOption (by decide +kernel)
  have readMethod : Method.read elementOwner elementLine =
      .ok { elementSignature with owner := elementOwner.fullname, origin := elementLine.origin } :=
    map_eq_ok.mpr ⟨_, saidMethod, rfl⟩
  have scanned : valueLine.tokens = .ok [.word "field", .word "public", .word "static", .word "final", .word "int",
      .word "K", .punct '=', .punct '-', .word "h", .punct '(', .word "1e-5", .punct ')', .punct ';'] :=
    Grammar.eq_ok_of_toOption (by decide +kernel)
  obtain ⟨fieldPlaces, -, -, kept⟩ := values_reemitted.1 elementOwner valueLine rfl
  obtain ⟨-, parameterPlaces, defaultPlaces, -⟩ := values_reemitted.1 elementOwner elementLine rfl
  have place : elementOwner.ValuePlace valueLine .field 7 5 "- h ( 1e-5 )" := by
    obtain ⟨start, count, place⟩ := fieldPlaces _ "- h ( 1e-5 )" read rfl
    obtain ⟨startIs, endIs⟩ := place.eq_of_count scanned (by decide) (by decide)
    have startIs : start = 7 := startIs.trans (by decide)
    have endIs : start + count = 12 := endIs.trans (by decide)
    obtain rfl : count = 5 := by omega
    rwa [startIs] at place
  have inFormat2 : (Stream.ofLines "api.txt" valueLines).drain.2.format = .v2 := by
    rw [Stream.ofLines, Stream.drain_eq]
    decide +kernel
  have puts {r : Reader} (three : r.line = 3) (inside : r.scope = .inside elementOwner)
      (declares : r.declares valueLine = true) :
      r.PutsBack "    field public static final int K= -h( 1e-5 ); // ="
        "    field public static final int K= - h ( 1e-5 ); // =" := by
    have line : Line.ofText (r.line + 1) "    field public static final int K= -h( 1e-5 ); // =" = valueLine := by
      rw [three]
      rfl
    have spliced : Line.spliceText 7 5 "- h ( 1e-5 )" "    field public static final int K= -h( 1e-5 ); // =" =
        "    field public static final int K= - h ( 1e-5 ); // =" := by decide +kernel
    rw [← spliced]
    refine .value inside ?_ ?_ (line.symm ▸ place)
    · exact ⟨"    field", by decide, line.symm ▸ (by decide +kernel : valueLine.startsWith "    field" = true)⟩
    · rwa [line]
  have reemitted : (Reader.start "api.txt").Reemitted valueLines reemittedLines :=
    .line .refl (.line .refl (.line .refl (.line
      (.single (puts (by decide +kernel) (by decide +kernel) (by decide +kernel))) (.line .refl .nil))))
  obtain ⟨-, idents, -⟩ := values_reemitted.2 "api.txt" valueLines reemittedLines inFormat2 reemitted
  refine ⟨rfl, read, place, ⟨_, (kept .field 7 5 _ place).2.1 _ read, rfl⟩,
    parameterPlaces _ 1 _ _ readMethod rfl rfl, defaultPlaces _ _ readMethod rfl, inFormat2, reemitted,
    idents.trans ?_⟩
  rw [Stream.ofLines, Stream.drain_eq]
  decide +kernel

end SignatureLint
