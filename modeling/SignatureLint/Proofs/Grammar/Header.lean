import Mathlib.Data.List.TakeWhile
import SignatureLint.Dump.Reading
import SignatureLint.Proofs.Grammar.Type
import SignatureLint.Proofs.Token.Step

/-!
# Headers of classes as they are written

`ClassLine` is the grammar of a class header in format 2: the kind, the tokens, and what they declare.
`classHeader_eq_ok` says that a header is read just when its tokens are such a list; `classRead_iff` says the
same of a line of a dump, and what a class that was read holds: the keyword of its kind and of no other
among its modifiers, its names, and the first of its supertypes.
-/

namespace SignatureLint

namespace Grammar

/-! ## The written grammar -/

/-- What a class implements. An interface that does not say so implements what it extends. -/
def implementedBy (kind : ClassKind) (extended implemented : Option (List String)) : List String :=
  match implemented with
  | some types => types
  | none => if kind = .interface then extended.getD [] else []

/-- The tokens of a line that declares a class of a kind, and what they declare. -/
inductive ClassLine (kind : ClassKind) : List Token → ClassHeader → Prop where
  | line {modifiers : Modifiers} {annotations words : List String} {declared : String}
    {extended implemented : Option (List String)} {annotated modified generic clauses left : List Token} :
    AnnotationPhrases annotated annotations modified →
      Words modifierWords modified words (kind.token :: .word declared :: generic) →
      OptionalGroup (.punct '<') (.punct '>') generic clauses →
      Announced (.word "extends") TypeListPhrase clauses extended left →
      Announced (.word "implements") TypeListPhrase left implemented [.punct '{'] →
      ModifiersAre modifiers kind.keyword annotations (words ++ kind.implied) →
      ClassLine kind annotated
        { modifiers, annotations, declared, superclasses := extended.getD [],
          interfaces := implementedBy kind extended implemented }

/-! ## Reading -/

variable {ts rest : List Token}

theorem supertypes_eq_ok {keyword : String} {types : List String} :
    supertypes keyword ts = .ok (types, rest) ↔
      ∃ given, Announced (.word keyword) TypeListPhrase ts given rest ∧ types = given.getD [] := by
  rcases head?_cases (.word keyword) ts with ⟨left, rfl⟩ | absent
  · rw [supertypes, takeIf_self]
    constructor
    · intro read
      exact ⟨some types, .given (typeList_eq_ok.mp read), rfl⟩
    · rintro ⟨_, written | absent, rfl⟩
      · exact typeList_eq_ok.mpr written
      · exact absurd rfl absent
  · rw [supertypes, takeIf_of_head? absent]
    constructor
    · intro read
      cases read
      exact ⟨none, .none absent, rfl⟩
    · rintro ⟨_, _ | _, rfl⟩
      · exact absurd rfl absent
      · rfl

theorem TypeListPhrase.ne_nil {types : List String} (written : TypeListPhrase ts types rest) : types ≠ [] := by
  cases written
  exact List.cons_ne_nil _ _

/-- A clause that is written has a type, so an empty list of interfaces says that there is no clause. -/
theorem implementedBy_eq {kind : ClassKind} {extended implemented : Option (List String)} {left : List Token}
    (written : Announced (.word "implements") TypeListPhrase left implemented rest) :
    implementedBy kind extended implemented =
      if kind = .interface ∧ implemented.getD [] = [] then extended.getD [] else implemented.getD [] := by
  cases written with
  | given types => rw [if_neg fun empty => types.ne_nil empty.2]; rfl
  | none => simp [implementedBy]

theorem classKind_token_injective (a b : ClassKind) (same : a.token = b.token) : a = b := by
  cases a <;> cases b <;> first | rfl | exact absurd same (by decide)

theorem mem_classKind_all (kind : ClassKind) : kind ∈ ClassKind.all := by
  cases kind <;> decide

/-- **A line is read as the header of a class just when it is written as one.** -/
theorem classHeader_eq_ok {header : ClassHeader} :
    classHeader ts = .ok header ↔ ∃ kind, ClassLine kind ts header := by
  constructor
  · intro read
    obtain ⟨⟨annotations, modified⟩, annotationsRead, read⟩ := bind_eq_ok.mp read
    obtain ⟨⟨kind, named⟩, chosen, read⟩ := bind_eq_ok.mp read
    obtain ⟨⟨declared, generic⟩, nameRead, read⟩ := bind_eq_ok.mp read
    obtain ⟨clauses, skipped, read⟩ := bind_eq_ok.mp read
    obtain ⟨⟨extended, left⟩, extendsRead, read⟩ := bind_eq_ok.mp read
    obtain ⟨⟨implemented, braced⟩, implementsRead, read⟩ := bind_eq_ok.mp read
    obtain ⟨ended, braceRead, read⟩ := bind_eq_ok.mp read
    obtain ⟨_, finished, read⟩ := bind_eq_ok.mp read
    cases pure_eq_ok.mp read
    dsimp only at *
    rw [finish_eq_ok.mp finished] at braceRead
    rw [expect_eq_ok.mp braceRead] at implementsRead
    obtain ⟨extendsGiven, extendsPhrase, rfl⟩ := supertypes_eq_ok.mp extendsRead
    obtain ⟨implementsGiven, implementsPhrase, rfl⟩ := supertypes_eq_ok.mp implementsRead
    have chosen := (choose_eq_ok classKind_token_injective (mem_classKind_all kind)).mp chosen
    rw [word_eq_ok.mp nameRead] at chosen
    have words : wordsAmong modifierWords modified =
        ((wordsAmong modifierWords modified).1, kind.token :: .word declared :: generic) := by rw [← chosen]
    refine ⟨kind, ?_⟩
    rw [← implementedBy_eq implementsPhrase]
    exact .line (annotations_eq_ok.mp annotationsRead) (wordsAmong_eq.mp words)
      ((skipGroup_eq_ok (by decide)).mp skipped) extendsPhrase implementsPhrase modifiersAre_modifierSet
  · rintro ⟨kind, annotations, words, arguments, extended, implemented, are⟩
    rw [are.eq_modifierSet, implementedBy_eq implemented]
    refine bind_eq_ok.mpr ⟨_, annotations_eq_ok.mpr annotations, ?_⟩
    dsimp only
    rw [wordsAmong_eq.mpr words]
    refine bind_eq_ok.mpr ⟨_, (choose_eq_ok classKind_token_injective (mem_classKind_all kind)).mpr rfl, ?_⟩
    refine bind_eq_ok.mpr ⟨_, word_eq_ok.mpr rfl, ?_⟩
    refine bind_eq_ok.mpr ⟨_, (skipGroup_eq_ok (by decide)).mpr arguments, ?_⟩
    refine bind_eq_ok.mpr ⟨_, supertypes_eq_ok.mpr ⟨_, extended, rfl⟩, ?_⟩
    refine bind_eq_ok.mpr ⟨_, supertypes_eq_ok.mpr ⟨_, implemented, rfl⟩, ?_⟩
    refine bind_eq_ok.mpr ⟨_, expect_eq_ok.mpr rfl, ?_⟩
    exact bind_eq_ok.mpr ⟨(), rfl, rfl⟩

/-! ## Kinds -/

theorem Words.mem_allowed {allowed texts : List String} (written : Words allowed ts texts rest) :
    ∀ text ∈ texts, text ∈ allowed := by
  induction written with
  | more mem _ ih =>
    intro text memText
    rcases List.mem_cons.mp memText with rfl | memText
    · exact mem
    · exact ih text memText
  | done => exact fun text mem => absurd mem List.not_mem_nil

theorem keyword_not_modifier (kind : ClassKind) :
    kind.keyword ∉ modifierWords ∧ kind.keyword ≠ "deprecated" ∧ ∀ other : ClassKind, kind.keyword ∉ other.implied := by
  cases kind
  all_goals
    refine ⟨by decide, by decide, fun other => ?_⟩
    cases other <;> decide

theorem keyword_injective {a b : ClassKind} (same : a.keyword = b.keyword) : a = b := by
  cases a <;> cases b <;> first | rfl | exact absurd same (by decide)

/-- The modifiers of a header tell its kind: they hold the keyword of that kind and of no other. -/
theorem ClassLine.has_keyword_iff {kind : ClassKind} {header : ClassHeader} (written : ClassLine kind ts header)
    (other : ClassKind) : header.modifiers.has other.keyword = true ↔ other = kind := by
  obtain ⟨-, words, -, -, -, are⟩ := written
  obtain ⟨noModifier, notDeprecated, notImplied⟩ := keyword_not_modifier other
  rw [are]
  constructor
  · rintro (mem | same | ⟨deprecated, -⟩)
    · rcases List.mem_append.mp mem with mem | mem
      · exact absurd (words.mem_allowed _ mem) noModifier
      · exact absurd mem (notImplied kind)
    · exact keyword_injective same
    · exact absurd deprecated notDeprecated
  · rintro rfl
    exact .inr (.inl rfl)

theorem ClassLine.kind_eq {kind : ClassKind} {header : ClassHeader} (written : ClassLine kind ts header) :
    header.kind = kind := by
  have found : ClassKind.all.find? (fun k => header.modifiers.has k.keyword) = some kind := by
    cases found : ClassKind.all.find? (fun k => header.modifiers.has k.keyword) with
    | none =>
      have absent := List.find?_eq_none.mp found kind (mem_classKind_all kind)
      exact absurd ((written.has_keyword_iff kind).mpr rfl) absent
    | some other =>
      have has : header.modifiers.has other.keyword = true := by simpa using List.find?_some found
      rw [(written.has_keyword_iff other).mp has]
  rw [ClassHeader.kind, found]
  rfl

end Grammar

/-! ## Names -/

/-- The simple name is what comes after the last dot of the full name. -/
theorem Class.fullname_eq_append_name (c : Class) :
    ∃ start, c.fullname = start ++ "." ++ c.name ∧ '.' ∉ c.name.toList := by
  have dotted : '.' ∈ c.fullname.toList.reverse := by simp [fullname, ClassName.fullname]
  obtain ⟨last, start, split, undotted⟩ := List.eq_append_cons_of_mem dotted
  have taken : c.fullname.toList.reverse.takeWhile (· != '.') = last := by
    have all : ∀ ch ∈ last, (ch != '.') = true := by
      intro ch mem
      exact bne_iff_ne.mpr fun same => undotted (same ▸ mem)
    rw [split, List.takeWhile_append_of_pos all]
    simp
  have name : c.name.toList = last.reverse := by rw [Class.name, String.toList_ofList, taken]
  have fullname : c.fullname.toList = start.reverse ++ '.' :: last.reverse := by
    rw [← List.reverse_reverse c.fullname.toList, split]
    simp
  refine ⟨String.ofList start.reverse, String.toList_inj.mp ?_, ?_⟩
  · simp [fullname, name]
  · rw [name, List.mem_reverse]
    exact undotted

/-! ## Lines of a dump -/

/-- The class is the one that a header line opens in a package: it stands on that line, and has no members. -/
structure Class.OpenedBy (c : Class) (package : Package) (line : Line) : Prop where
  package : c.package = package.name
  origin : c.origin = line.origin
  format : c.format = .v2
  methods : c.methods = []
  fields : c.fields = []

/-- What a class of a kind holds that is declared in a package. -/
structure Class.DeclaredIn (c : Class) (package : Package) (kind : ClassKind) : Prop where
  kind_eq : c.kind = kind
  /-- Of the keywords of kinds, its own alone is among the modifiers. -/
  keyword : ∀ other : ClassKind, c.modifiers.has other.keyword = true ↔ other = kind
  final : kind = .enum → c.modifiers.has "final" = true
  deprecated : "@Deprecated" ∈ c.annotations → c.modifiers.has "deprecated" = true
  fullname : c.fullname = package.name ++ "." ++ c.declared
  /-- The simple name is the last segment of the full name. -/
  name : ∃ start, c.fullname = start ++ "." ++ c.name ∧ '.' ∉ c.name.toList
  superclass : c.superclass = c.superclasses.head?
  leadInterface : c.leadInterface = c.interfaces.head?

theorem Grammar.ClassLine.declaredIn {kind : ClassKind} {tokens : List Token} {c : Class} {package : Package}
    (written : ClassLine kind tokens c.toClassHeader) (inPackage : c.package = package.name) :
    c.DeclaredIn package kind where
  kind_eq := written.kind_eq
  keyword := written.has_keyword_iff
  final := by
    rintro rfl
    generalize c.toClassHeader = header at written
    obtain ⟨-, -, -, -, -, are⟩ := written
    exact (are "final").mpr (.inl (List.mem_append_right _ (by decide)))
  deprecated := by
    intro annotated
    generalize c.toClassHeader = header at written annotated ⊢
    obtain ⟨-, -, -, -, -, are⟩ := written
    exact (are "deprecated").mpr (.inr (.inr ⟨rfl, annotated⟩))
  fullname := by rw [Class.fullname, Class.className, ClassName.fullname, inPackage]
  name := c.fullname_eq_append_name
  superclass := rfl
  leadInterface := rfl

/-- **A line opens a format 2 class just when its tokens are written as a header**, and what the class holds
is told by them. -/
theorem classRead_iff {package : Package} {line : Line} {tokens : List Token}
    (lexed : tokenize line.text = .ok tokens) (c : Class) :
    (Class.read package .v2 line = .ok c ↔
      ∃ kind, Grammar.ClassLine kind tokens c.toClassHeader ∧ c.OpenedBy package line) ∧
    ∀ kind, Grammar.ClassLine kind tokens c.toClassHeader → c.OpenedBy package line → c.DeclaredIn package kind := by
  have read : ClassHeader.read .v2 line = readTokens Grammar.classHeader tokens := by
    rw [ClassHeader.read, Line.tokens, lexed]
    rfl
  constructor
  · rw [Class.read, read, map_eq_ok]
    constructor
    · rintro ⟨header, said, rfl⟩
      obtain ⟨kind, written⟩ := Grammar.classHeader_eq_ok.mp (mapError_eq_ok.mp said)
      exact ⟨kind, written, rfl, rfl, rfl, rfl, rfl⟩
    · rintro ⟨kind, written, opened⟩
      refine ⟨c.toClassHeader, mapError_eq_ok.mpr (Grammar.classHeader_eq_ok.mpr ⟨kind, written⟩), ?_⟩
      obtain ⟨said, inPackage, stoodAt, format, methods, fields⟩ := c
      obtain ⟨rfl, rfl, rfl, rfl, rfl⟩ := opened
      rfl
  · intro kind written opened
    exact written.declaredIn opened.package

/-- The line of an interface with all that a header can have but a clause of what it implements. -/
def interfaceLine : Line where
  number := 2
  text := "  @Deprecated public interface Outer.Inner<T extends A<B>> extends a.B<T> @C String, extendsNothing, \x7b".toList
  blame := none

/-- The class that the line opens in the package `p`. -/
def innerInterface : Class where
  modifiers := .ofList ["deprecated", "interface", "public"]
  annotations := ["@Deprecated"]
  declared := "Outer.Inner"
  superclasses := ["a.B", "java.lang.String", "extendsNothing"]
  interfaces := ["a.B", "java.lang.String", "extendsNothing"]
  package := "p"
  origin := interfaceLine.origin
  format := .v2
  methods := []
  fields := []

/-- The line is read, so its tokens are written as the grammar says, and the class is an interface. -/
theorem classRead_iff_interface :
    let package : Package := ⟨"p", ⟨1, "package p", none⟩, .ofList ["package"]⟩
    ∃ tokens, tokenize interfaceLine.text = .ok tokens ∧
      Grammar.ClassLine .interface tokens innerInterface.toClassHeader ∧
      innerInterface.DeclaredIn package .interface := by
  intro package
  have fine : (tokenize interfaceLine.text).isOk = true := by decide +kernel
  have read : Class.read package .v2 interfaceLine = .ok innerInterface :=
    Grammar.eq_ok_of_toOption (by decide +kernel)
  cases lexed : tokenize interfaceLine.text with
  | error e =>
    rw [lexed] at fine
    cases fine
  | ok tokens =>
    obtain ⟨iff, declared⟩ := @classRead_iff package _ _ lexed innerInterface
    obtain ⟨kind, written, opened⟩ := iff.mp read
    have same : kind = .interface := by rw [← written.kind_eq]; decide +kernel
    subst same
    exact ⟨tokens, rfl, written, declared _ written opened⟩

end SignatureLint
