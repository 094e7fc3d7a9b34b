import SignatureLint.Dump.Reading
import SignatureLint.Proofs.Positional.Filter

/-!
# Class headers in both formats

Format 1 finds the supertypes of a class by their keywords: the word after each `extends` and `implements`, wherever
these stand. It reads a header as format 2 does, up to what each clause names first, if these are plain words and no
later type of a clause is named as a clause is announced (`IsPositionalHeader`, `classRead_positional`). Such a name
is a type for format 2 where an annotation stands between it and the comma before it; format 1, which is not shown
the annotation, takes it for the keyword (`classRead_positional_keyword`).
-/

namespace SignatureLint

namespace Positional

open Grammar

variable {ts rest left : List Token}

/-! ## Supertypes -/

/-- The words that announce the clauses of a header. -/
def clauseKeywords : List String := ["extends", "implements"]

theorem clauses_cons {t : Token} (other : t ∉ clauseKeywords.map .word) : clauses (t :: rest) = clauses rest := by
  have noExtends : t ≠ .word "extends" := fun same => other (by rw [same]; decide)
  have noImplements : t ≠ .word "implements" := fun same => other (by rw [same]; decide)
  rw [clauses]
  · exact fun _ _ same => absurd same noExtends
  · exact fun _ _ same => absurd same noImplements
  · exact noExtends
  · exact noImplements

theorem clauses_append {tokens : List Token} (others : ∀ t ∈ tokens, t ∉ clauseKeywords.map .word) :
    clauses (tokens ++ rest) = clauses rest := by
  induction tokens with
  | nil => rfl
  | cons t tokens ih =>
    rw [List.cons_append, clauses_cons (others t List.mem_cons_self)]
    exact ih fun u mem => others u (List.mem_cons_of_mem _ mem)

theorem clauses_suffixes {suffixes : List Token} (written : SuffixTokens ts suffixes rest) :
    clauses (suffixes ++ left) = clauses left := by
  have others : ∀ t ∈ Token.array :: nullabilityMarks, t ∉ clauseKeywords.map .word := by decide
  exact clauses_append fun t mem => others t (written.mem t mem)

/-- The types after the first of a list are passed over. -/
theorem clauses_moreReferences {references : List Reference} (written : MoreReferences ts references rest)
    (apart : ∀ r ∈ references, ∀ word ∈ r.words, word ∉ clauseKeywords) :
    clauses (plainTokens 0 ts) = clauses (plainTokens 0 rest) := by
  have comma {ts rest : List Token} {given : Bool} (written : OptionalToken (.punct ',') ts given rest) :
      clauses (plainTokens 0 ts) = clauses (plainTokens 0 rest) := by
    cases written with
    | given => rw [plainTokens_cons (by decide), clauses_cons (by decide)]
    | none => rfl
  induction written with
  | @more _ _ _ _ r _ _ separated _ one _ ih =>
    have others : ∀ t ∈ r.words.map Token.word, t ∉ clauseKeywords.map .word := by
      intro t mem keyword
      obtain ⟨word, wordMem, rfl⟩ := List.mem_map.mp mem
      obtain ⟨_, keywordMem, ⟨⟩⟩ := List.mem_map.mp keyword
      exact apart r List.mem_cons_self word wordMem keywordMem
    rw [comma separated, plainTokens_reference one, clauses_append others]
    obtain ⟨_, suffixes⟩ := one.suffixTokens
    rw [clauses_suffixes suffixes]
    exact ih fun r mem => apart r (List.mem_cons_of_mem _ mem)
  | done separated => exact comma separated

/-- What lets format 1 read a clause. -/
structure IsPositionalClause (references : List Reference) : Prop where
  undotted : ∀ r ∈ references, Undotted r
  flat : ∀ r ∈ references, .array ∉ r.suffixes
  /-- No type after the first is named as a clause is announced. -/
  apart : ∀ r ∈ references.tail, ∀ word ∈ r.words, word ∉ clauseKeywords

/-- What format 1 reads of a clause: the first type. -/
def leading (given : Option (List Reference)) : List String := ((clauseTexts given).bind List.head?).toList

/-- A list of supertypes is left as the word of its first type, with nothing behind it that opens a clause. -/
theorem plainTokens_referenceList {references : List Reference} (written : ReferenceList ts references rest)
    (positional : IsPositionalClause references) :
    ∃ name after, plainTokens 0 ts = .word name :: after ∧ leading (some references) = [qualify name] ∧
      clauses after = clauses (plainTokens 0 rest) := by
  obtain @⟨ts, left, rest, first, more, one, others⟩ := written
  obtain ⟨name, words, plain⟩ := plainTokens_undotted one (positional.undotted first List.mem_cons_self)
  have flat : first.suffixes.count .array = 0 := List.count_eq_zero.mpr (positional.flat first List.mem_cons_self)
  have text : first.text = qualify name := by
    rw [Reference.text, words, flat]
    simp [withDimensions, String.join]
  refine ⟨name, _, plain, by rw [← text]; rfl, ?_⟩
  obtain ⟨_, suffixes⟩ := one.suffixTokens
  rw [clauses_suffixes suffixes]
  exact clauses_moreReferences others positional.apart

/-- What is found behind a clause, with what that clause extends. -/
def withExtended (first : List String) (found : List String × List String) : List String × List String :=
  (first ++ found.1, found.2)

/-- What is found behind a clause, with what that clause implements. -/
def withImplemented (first : List String) (found : List String × List String) : List String × List String :=
  (found.1, first ++ found.2)

theorem clauses_extends (name : String) (rest : List Token) :
    clauses (.word "extends" :: .word name :: rest) = (clauses rest).map (withExtended [qualify name]) := by
  rw [clauses]
  rfl

theorem clauses_implements (name : String) (rest : List Token) :
    clauses (.word "implements" :: .word name :: rest) = (clauses rest).map (withImplemented [qualify name]) := by
  rw [clauses]
  rfl

/-- A clause adds its first type to what is found behind it, and nothing where it is left out. -/
theorem clauses_announced {keyword : String} {add : List String → List String × List String → List String × List String}
    (reads : ∀ name rest, clauses (.word keyword :: .word name :: rest) = (clauses rest).map (add [qualify name]))
    (adds : ∀ found, add [] found = found) {given : Option (List Reference)}
    (written : Announced (.word keyword) ReferenceList ts given rest)
    (positional : ∀ references ∈ given, IsPositionalClause references) :
    clauses (plainTokens 0 ts) = (clauses (plainTokens 0 rest)).map (add (leading given)) := by
  cases written with
  | given list =>
    obtain ⟨name, after, plain, lead, same⟩ := plainTokens_referenceList list (positional _ rfl)
    rw [plainTokens_word, plain, reads, same, lead]
  | none =>
    have nothing : add (leading none) = id := funext adds
    rw [nothing]
    cases clauses (plainTokens 0 ts) <;> rfl

/-! ## Headers -/

theorem splitAtKind_words {words : List String} (allowed : ∀ word ∈ words, word ∈ modifierWords) (kind : ClassKind) :
    splitAtKind (words.map .word ++ kind.token :: rest) = some (words.map .word, kind, rest) := by
  induction words with
  | nil =>
    have found : (ClassKind.all.find? fun k => k.token = kind.token) = some kind := by cases kind <;> decide
    rw [List.map_nil, List.nil_append, splitAtKind, found]
  | cons word words ih =>
    have noKind : (ClassKind.all.find? fun k => k.token = .word word) = none := by
      refine List.find?_eq_none.mpr fun k _ same => ?_
      have apart : ∀ word ∈ modifierWords, ∀ k : ClassKind, k.token ≠ .word word := by
        intro word mem k
        cases k <;> revert word <;> decide
      exact apart word (allowed word List.mem_cons_self) k (by simpa using same)
    rw [List.map_cons, List.cons_append, splitAtKind, noKind]
    dsimp only
    rw [ih fun word mem => allowed word (List.mem_cons_of_mem _ mem)]
    rfl

/-- What lets format 1 read a header: its supertypes are words without arrays, and those after the first of a clause
announce no other. -/
structure IsPositionalHeader (parts : HeaderParts) : Prop where
  undotted : ∀ r ∈ parts.supertypes, Undotted r
  flat : ∀ r ∈ parts.supertypes, .array ∉ r.suffixes
  apart : ∀ r ∈ parts.laterSupertypes, ∀ word ∈ r.words, word ∉ clauseKeywords

theorem IsPositionalHeader.clause {parts : HeaderParts} {references : List Reference}
    (positional : IsPositionalHeader parts) (all : ∀ r ∈ references, r ∈ parts.supertypes)
    (later : ∀ r ∈ references.tail, r ∈ parts.laterSupertypes) : IsPositionalClause references where
  undotted := fun r mem => positional.undotted r (all r mem)
  flat := fun r mem => positional.flat r (all r mem)
  apart := fun r mem => positional.apart r (later r mem)

theorem IsPositionalHeader.extended {parts : HeaderParts} (positional : IsPositionalHeader parts) :
    ∀ references ∈ parts.extended, IsPositionalClause references := by
  intro references given
  refine positional.clause (fun r mem => ?_) fun r mem => ?_
  · rw [HeaderParts.supertypes, given]
    exact List.mem_append_left _ mem
  · rw [HeaderParts.laterSupertypes, given]
    exact List.mem_append_left _ mem

theorem IsPositionalHeader.implemented {parts : HeaderParts} (positional : IsPositionalHeader parts) :
    ∀ references ∈ parts.implemented, IsPositionalClause references := by
  intro references given
  refine positional.clause (fun r mem => ?_) fun r mem => ?_
  · rw [HeaderParts.supertypes, given]
    exact List.mem_append_right _ mem
  · rw [HeaderParts.laterSupertypes, given]
    exact List.mem_append_right _ mem

/-- The header as format 1 reads it. -/
def headerOf (parts : HeaderParts) : ClassHeader where
  modifiers := modifierSet parts.kind.keyword [] (parts.words ++ parts.kind.implied)
  annotations := []
  declared := parts.declared
  superclasses := leading parts.extended
  interfaces := leading parts.implemented

theorem isPlain_kind (kind : ClassKind) : IsPlain kind.token := by cases kind <;> decide

/-- What is left of a header is read in format 1. -/
theorem classHeader_plainTokens {parts : HeaderParts} (written : HeaderLine ts parts)
    (positional : IsPositionalHeader parts) :
    ∃ before after, splitAtKind (plainTokens 0 ts) = some (before, parts.kind, after) ∧
      classHeader before parts.kind after = .ok (headerOf parts) := by
  obtain @⟨_, _, _, generic, _, _, annotations, words, arguments, extended, implemented⟩ := written
  have split : splitAtKind (plainTokens 0 ts) =
      some (parts.words.map .word, parts.kind, plainTokens 0 (.word parts.declared :: generic)) := by
    rw [plainTokens_annotations annotations, plainTokens_words words, plainTokens_cons (isPlain_kind _)]
    exact splitAtKind_words words.mem_allowed parts.kind
  refine ⟨_, _, split, ?_⟩
  have brace : clauses (plainTokens 0 [.punct '{']) = .ok ([], []) := by
    rw [plainTokens_cons (by decide), plainTokens_nil]
    rfl
  have read := clauses_announced clauses_extends (fun _ => rfl) extended positional.extended
  rw [clauses_announced clauses_implements (fun _ => rfl) implemented positional.implemented, brace,
    ← plainTokens_optionalGroup arguments] at read
  rw [plainTokens_word]
  refine bind_eq_ok.mpr ⟨_, word_eq_ok.mpr rfl, ?_⟩
  refine bind_eq_ok.mpr ⟨_, read, ?_⟩
  simp [headerOf, withExtended, withImplemented, Function.comp_def, Token.text, pure, Except.pure]

end Positional

/-! ## Lines of a dump -/

/-- Both formats read the same modifiers, but that format 2 adds `deprecated` for an annotation. -/
def SameModifiers (positional modifiers : Modifiers) (annotations : List String) : Prop :=
  modifiers = if "@Deprecated" ∈ annotations then positional.insert "deprecated" else positional

theorem SameModifiers.has_eq {positional modifiers : Modifiers} {annotations : List String}
    (same : SameModifiers positional modifiers annotations) {word : String} (apart : word ≠ "deprecated") :
    positional.has word = modifiers.has word := by
  rw [same]
  split
  next =>
    rw [Bool.eq_iff_iff, WordSet.has_insert]
    simp [apart]
  next => rfl

theorem SameModifiers.kind_eq {d c : ClassHeader} (same : SameModifiers d.modifiers c.modifiers c.annotations) :
    d.kind = c.kind := by
  have alike : (fun kind : ClassKind => d.modifiers.has kind.keyword) = fun kind => c.modifiers.has kind.keyword :=
    funext fun kind => same.has_eq (Grammar.keyword_not_modifier kind).2.1
  rw [ClassHeader.kind, alike, ClassHeader.kind]

/-- What a header line declares in format 1 and in format 2, with its parts. -/
structure Class.ReadsAs (d c : Class) (parts : Grammar.HeaderParts) : Prop where
  fullname : d.fullname = c.fullname
  name : d.name = c.name
  kind : d.kind = c.kind
  modifiers : SameModifiers d.modifiers c.modifiers c.annotations
  superclass : d.superclass = c.superclass
  leadInterface : c.kind ≠ .interface ∨ parts.implemented ≠ none → d.leadInterface = c.leadInterface
  /-- Only format 2 lets an interface implement what it extends. -/
  alone : c.kind = .interface → parts.implemented = none → d.leadInterface = none ∧ c.leadInterface = c.superclass

theorem head?_leading (given : Option (List Grammar.Reference)) :
    (Positional.leading given).head? = ((Grammar.clauseTexts given).getD []).head? := by
  cases given with
  | none => rfl
  | some references => cases references <;> rfl

theorem Line.plainTokens_eq {line : Line} {tokens : List Token} (lexed : tokenize line.text = .ok tokens) :
    line.plainTokens = .ok (Positional.plainTokens 0 tokens) := by
  rw [Line.plainTokens, Line.tokens, lexed]
  rfl

/-- What format 1 reads of a header that it can tell. -/
theorem ClassHeader.read_positional {line : Line} {tokens : List Token} {parts : Grammar.HeaderParts}
    (lexed : tokenize line.text = .ok tokens) (written : Grammar.HeaderLine tokens parts)
    (positional : Positional.IsPositionalHeader parts) :
    ClassHeader.read .v1 line = .ok (Positional.headerOf parts) := by
  obtain ⟨before, after, split, read⟩ := Positional.classHeader_plainTokens written positional
  refine Grammar.bind_eq_ok.mpr ⟨_, Line.plainTokens_eq lexed, ?_⟩
  rw [split]
  exact mapError_eq_ok.mpr read

/-- Both formats tell the same lead interface, but for an interface that does not say what it implements. -/
theorem head?_interfaces_header (parts : Grammar.HeaderParts) :
    parts.header.interfaces.head? =
      if parts.kind = .interface ∧ parts.implemented = none then parts.header.superclasses.head?
      else (Positional.leading parts.implemented).head? := by
  obtain ⟨kind, annotations, words, declared, extended, implemented⟩ := parts
  rw [head?_leading]
  cases implemented with
  | none => cases kind <;> rfl
  | some references => rw [if_neg (by simp)]; rfl

theorem Positional.readsAs_headerOf {tokens : List Token} {parts : Grammar.HeaderParts}
    (written : Grammar.HeaderLine tokens parts) (package : String) (origin : Origin) :
    Class.ReadsAs { headerOf parts with package, origin, format := .v1, methods := [], fields := [] }
      { parts.header with package, origin, format := .v2, methods := [], fields := [] } parts := by
  have kind : parts.header.kind = parts.kind := written.classLine.kind_eq
  have interfaces := head?_interfaces_header parts
  rw [← kind] at interfaces
  exact {
    fullname := rfl
    name := rfl
    kind := SameModifiers.kind_eq (d := headerOf parts) (c := parts.header) rfl
    modifiers := rfl
    superclass := head?_leading parts.extended
    leadInterface := by
      intro tells
      refine Eq.trans ?_ interfaces.symm
      rw [if_neg]
      · rfl
      · rintro ⟨isInterface, silent⟩
        exact tells.elim (absurd isInterface) (absurd silent)
    alone := by
      intro isInterface silent
      refine ⟨?_, interfaces.trans (if_pos ⟨isInterface, silent⟩)⟩
      rw [Class.leadInterface, headerOf, silent]
      rfl }

/-- **A class header of format 2 that format 1 can tell is read alike in both.** Whatever header format 2 reads has
parts, and these tell whether format 1 can. -/
theorem classRead_positional {package : Package} {line : Line} {c : Class}
    (read : Class.read package .v2 line = .ok c) :
    ∃ tokens, tokenize line.text = .ok tokens ∧ (∃ parts, Grammar.HeaderLine tokens parts) ∧
      ∀ parts, Grammar.HeaderLine tokens parts → c.toClassHeader = parts.header ∧
        (Positional.IsPositionalHeader parts → ∃ d, Class.read package .v1 line = .ok d ∧ d.ReadsAs c parts) := by
  obtain ⟨header, said, rfl⟩ := map_eq_ok.mp read
  obtain ⟨tokens, lexed, exists_parts, told⟩ := Line.parts_of_read Grammar.classHeader_iff_parts said
  refine ⟨tokens, lexed, exists_parts, fun parts written => ⟨told parts written, fun positional => ?_⟩⟩
  have readV1 := ClassHeader.read_positional lexed written positional
  refine ⟨_, map_eq_ok.mpr ⟨_, readV1, rfl⟩, ?_⟩
  rw [told parts written]
  exact Positional.readsAs_headerOf written package.name line.origin

/-- A package. -/
def examplePackage : Package := ⟨"p", ⟨1, "package p", none⟩, .ofList ["package"]⟩

/-- A header with keywords among its type parameters and as the first names of its clauses. -/
def crowdedLine : Line where
  number := 2
  text := "  @Deprecated public class A<T extends B> extends implements<C> @D(e) F, G? implements extends \x7b".toList
  blame := none

def crowdedTokens : List Token := [
  .atSign, .word "Deprecated", .word "public", .word "class", .word "A", .punct '<', .word "T", .word "extends",
  .word "B", .punct '>', .word "extends", .word "implements", .punct '<', .word "C", .punct '>', .atSign, .word "D",
  .punct '(', .word "e", .punct ')', .word "F", .punct ',', .word "G", .punct '?', .word "implements", .word "extends",
  .punct '\x7b']

def crowdedParts : Grammar.HeaderParts where
  kind := .ordinary
  annotations := ["@Deprecated"]
  words := ["public"]
  declared := "A"
  extended := some [⟨["implements"], []⟩, ⟨["F"], []⟩, ⟨["G"], [.punct '?']⟩]
  implemented := some [⟨["extends"], []⟩]

theorem crowded_written : Grammar.HeaderLine crowdedTokens crowdedParts := by
  have annotations : Grammar.AnnotationPhrases crowdedTokens ["@Deprecated"] (crowdedTokens.drop 2) :=
    .more (.named (.none nofun)) (.done nofun)
  have generic : Grammar.OptionalGroup (.punct '<') (.punct '>') (crowdedTokens.drop 5) (crowdedTokens.drop 10) :=
    (Grammar.skipGroup_eq_ok (by decide)).mp rfl
  have first : Grammar.ReferencePhrase (crowdedTokens.drop 11) ⟨["implements"], []⟩ (crowdedTokens.drop 20) :=
    .reference (.done nofun) (.whole (by decide)) ((Grammar.skipGroup_eq_ok (by decide)).mp rfl)
      (.annotated (.named ((Grammar.skipGroup_eq_ok (by decide)).mp rfl)) (.done (by decide)))
  have second : Grammar.ReferencePhrase (crowdedTokens.drop 20) ⟨["F"], []⟩ (crowdedTokens.drop 21) :=
    Grammar.referencePhrase_word (by decide) (by decide)
  have third : Grammar.ReferencePhrase (crowdedTokens.drop 22) ⟨["G"], [.punct '?']⟩ (crowdedTokens.drop 24) :=
    .reference (.done nofun) (.whole (by decide)) (.none nofun) (.more (by decide) (.done (by decide)))
  have implements : Grammar.ReferencePhrase (crowdedTokens.drop 25) ⟨["extends"], []⟩ [.punct '\x7b'] :=
    Grammar.referencePhrase_word (by decide) (by decide)
  have goesOn {t : Token} {ts : List Token} (other : Grammar.endsTypeList t = false) : ¬ Grammar.AtListEnd (t :: ts) :=
    fun ends => absurd (Grammar.all_endsTypeList_iff.mpr ends) (by simpa using other)
  have more : Grammar.MoreReferences (crowdedTokens.drop 20) _ (crowdedTokens.drop 24) :=
    .more (.none nofun) (goesOn rfl) second (.more .given (goesOn rfl) third
      (.done (.none nofun) (Grammar.all_endsTypeList_iff.mp rfl)))
  have brace : Grammar.AtListEnd [.punct '\x7b'] := Grammar.all_endsTypeList_iff.mp rfl
  exact .line annotations (.more (by decide) (.done (by decide))) generic (.given (.references first more))
    (.given (.references implements (.done (.none nofun) brace)))

/-- The class that the line opens in format 2. -/
def crowdedClass : Class where
  modifiers := .ofList ["class", "deprecated", "public"]
  annotations := ["@Deprecated"]
  declared := "A"
  superclasses := ["implements", "F", "G"]
  interfaces := ["extends"]
  package := "p"
  origin := crowdedLine.origin
  format := .v2
  methods := []
  fields := []

/-- The line is read in format 2, and format 1 can tell it. -/
theorem classRead_positional_crowded :
    Class.read examplePackage .v2 crowdedLine = .ok crowdedClass ∧ Positional.IsPositionalHeader crowdedParts ∧
      ∃ d, Class.read examplePackage .v1 crowdedLine = .ok d ∧ d.ReadsAs crowdedClass crowdedParts := by
  have lexed : tokenize crowdedLine.text = .ok crowdedTokens := Grammar.eq_ok_of_toOption (by decide +kernel)
  have read : Class.read examplePackage .v2 crowdedLine = .ok crowdedClass :=
    Grammar.eq_ok_of_toOption (by decide +kernel)
  have positional : Positional.IsPositionalHeader crowdedParts := ⟨by decide, by decide, by decide⟩
  obtain ⟨tokens, scanned, -, told⟩ := classRead_positional read
  obtain rfl : crowdedTokens = tokens := Except.ok.inj (lexed.symm.trans scanned)
  exact ⟨read, positional, (told crowdedParts crowded_written).2 positional⟩

/-- A line that opens no class in format 1: what an annotation hides from format 2 is a keyword there. -/
def hiddenLine : Line where
  number := 2
  text := "  class A extends B, @X extends \x7b".toList
  blame := none

/-- The class that the line opens in format 2. -/
def hiddenClass : Class where
  modifiers := .ofList ["class"]
  annotations := []
  declared := "A"
  superclasses := ["B", "extends"]
  interfaces := []
  package := "p"
  origin := hiddenLine.origin
  format := .v2
  methods := []
  fields := []

/-- Without the condition on the names of later types, format 1 need not read a header at all. -/
theorem classRead_positional_keyword :
    ∃ tokens parts, tokenize hiddenLine.text = .ok tokens ∧ Grammar.HeaderLine tokens parts ∧
      (∀ r ∈ parts.supertypes, Positional.Undotted r ∧ .array ∉ r.suffixes) ∧
      Class.read examplePackage .v2 hiddenLine = .ok hiddenClass ∧
      ∀ d, Class.read examplePackage .v1 hiddenLine ≠ .ok d := by
  refine ⟨[.word "class", .word "A", .word "extends", .word "B", .punct ',', .atSign, .word "X", .word "extends",
    .punct '\x7b'], ⟨.ordinary, [], [], "A", some [⟨["B"], []⟩, ⟨["extends"], []⟩], none⟩,
    Grammar.eq_ok_of_toOption (by decide +kernel), ?_, ?_, Grammar.eq_ok_of_toOption (by decide +kernel), ?_⟩
  · have first : Grammar.ReferencePhrase [.word "B", .punct ',', .atSign, .word "X", .word "extends", .punct '\x7b']
        ⟨["B"], []⟩ _ := Grammar.referencePhrase_word (by decide) (by decide)
    have hidden : Grammar.ReferencePhrase [.atSign, .word "X", .word "extends", .punct '\x7b'] ⟨["extends"], []⟩ _ :=
      .reference (.more (.named (.none nofun)) (.done nofun)) (.whole (by decide)) (.none nofun) (.done (by decide))
    have goesOn : ¬ Grammar.AtListEnd [.atSign, .word "X", .word "extends", .punct '\x7b'] := fun ends =>
      absurd (Grammar.all_endsTypeList_iff.mpr ends) (by decide)
    have brace : Grammar.AtListEnd [.punct '\x7b'] := Grammar.all_endsTypeList_iff.mp rfl
    have more := Grammar.MoreReferences.more .given goesOn hidden (.done (.none nofun) brace)
    exact .line (.done nofun) (.done (by decide)) (.none nofun) (.given (.references first more)) (.none nofun)
  · decide
  · intro d read
    have fails : (Class.read examplePackage .v1 hiddenLine).isOk = false := by decide +kernel
    rw [read] at fails
    cases fails

end SignatureLint
