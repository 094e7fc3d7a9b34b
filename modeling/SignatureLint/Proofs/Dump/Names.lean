import SignatureLint.Proofs.Dump.Turn
import SignatureLint.Proofs.Grammar.Rest

/-!
# Names of classes

The package and the name of a class are words of its dump, in both formats. So the full name of a class holds
nothing but characters of words, signs and the dots between its parts (`isSpelled_of_mem_contents`): no blank,
and none of the marks that signatures join texts with.
-/

namespace SignatureLint

open Token (IsSpelled)

/-! ## Tokens that format 1 reads -/

namespace Positional

theorem suffix_afterBrackets (depth : Nat) (ts : List Token) : afterBrackets depth ts <:+ ts := by
  fun_induction afterBrackets depth ts with
  | case1 => exact List.suffix_refl _
  | case2 _ _ ih => exact ih.trans (List.suffix_cons _ _)
  | case3 => exact List.suffix_cons _ _
  | case4 _ _ ih => exact ih.trans (List.suffix_cons _ _)
  | case5 _ _ _ _ _ _ ih => exact ih.trans (List.suffix_cons _ _)

theorem suffix_afterArguments (ts : List Token) : afterArguments ts <:+ ts := by
  unfold afterArguments
  split
  · exact (suffix_afterBrackets 0 _).trans (List.suffix_cons _ _)
  · exact List.suffix_refl _

/-- Tokens are taken out of a line, and none is put in. -/
theorem plainTokens_sublist (depth : Nat) (ts : List Token) : (plainTokens depth ts).Sublist ts := by
  fun_induction plainTokens depth ts with
  | case1 => exact .slnil
  | case2 _ _ ih => exact ih.trans (List.sublist_cons_self _ _)
  | case3 _ _ ih => exact ih.trans (List.sublist_cons_self _ _)
  | case4 _ _ _ _ _ ih => exact ih.trans (List.sublist_cons_self _ _)
  | case5 rest ih =>
    have tail := (suffix_afterArguments rest.tail).sublist.trans (List.tail_sublist rest)
    exact (ih.trans tail).trans (List.sublist_cons_self _ _)
  | case6 t rest _ _ ih => exact ih.cons_cons t

theorem eq_of_splitAtKind {ts before after : List Token} {kind : ClassKind}
    (split : splitAtKind ts = some (before, kind, after)) : ts = before ++ kind.token :: after := by
  induction ts generalizing before with
  | nil => cases split
  | cons t ts ih =>
    rw [splitAtKind] at split
    cases found : ClassKind.all.find? fun kind => kind.token = t with
    | some kind' =>
      rw [found] at split
      cases split
      have same : kind.token = t := by simpa using List.find?_some found
      rw [same, List.nil_append]
    | none =>
      rw [found] at split
      obtain ⟨⟨before', kind', after'⟩, more, same⟩ := Option.map_eq_some_iff.mp split
      cases same
      rw [List.cons_append, ← ih more]

end Positional

/-! ## Names from lines -/

section

variable {line : Line}

/-- The tokens that a declaration of the format is read from. -/
def Line.tokensIn (line : Line) : Format → Except DeclarationError (List Token)
  | .v1 => line.plainTokens
  | .v2 => line.tokens

theorem Line.isSpelled_of_tokens {tokens : List Token} (scanned : line.tokens = .ok tokens) {text : String}
    (mem : .word text ∈ tokens) : IsSpelled text :=
  isSpelled_of_tokenize (mapError_eq_ok.mp scanned) mem

/-- In both formats a declaration is read from tokens of its line. -/
theorem Line.sublist_of_tokensIn {format : Format} {tokens : List Token} (scanned : line.tokensIn format = .ok tokens) :
    ∃ all, line.tokens = .ok all ∧ tokens.Sublist all := by
  cases format with
  | v2 => exact ⟨tokens, scanned, List.Sublist.refl _⟩
  | v1 =>
    obtain ⟨all, scannedAll, rfl⟩ := map_eq_ok.mp scanned
    exact ⟨all, scannedAll, Positional.plainTokens_sublist 0 all⟩

theorem Line.isSpelled_of_tokensIn {format : Format} {tokens : List Token} (scanned : line.tokensIn format = .ok tokens)
    {text : String} (mem : .word text ∈ tokens) : IsSpelled text := by
  obtain ⟨all, scannedAll, inside⟩ := Line.sublist_of_tokensIn scanned
  exact Line.isSpelled_of_tokens scannedAll (inside.subset mem)

theorem Package.isSpelled_of_read {package : Package} (read : Package.read line = .ok package) :
    IsSpelled package.name := by
  obtain ⟨tokens, scanned, read⟩ := Grammar.bind_eq_ok.mp read
  obtain ⟨⟨name, modifiers⟩, headed, read⟩ := Grammar.bind_eq_ok.mp read
  cases Grammar.pure_eq_ok.mp read
  exact Line.isSpelled_of_tokens scanned (Grammar.packageLine_of_packageHeader (mapError_eq_ok.mp headed)).name_mem

/-- The name that a class is declared with is the word behind the keyword of its kind. -/
theorem ClassHeader.declared_of_read {format : Format} {header : ClassHeader}
    (read : ClassHeader.read format line = .ok header) :
    ∃ (tokens : List Token) (kind : ClassKind) (rest : List Token),
      line.tokensIn format = .ok tokens ∧ kind.token :: .word header.declared :: rest <:+ tokens := by
  cases format with
  | v2 =>
    obtain ⟨tokens, scanned, read⟩ := Grammar.bind_eq_ok.mp read
    obtain ⟨kind, annotations, words, -, -, -, -⟩ := Grammar.classHeader_eq_ok.mp (mapError_eq_ok.mp read)
    have named := (Grammar.Words.leavesSuffix _ _ _ _ words).trans
      (Grammar.AnnotationPhrases.leavesSuffix _ _ _ annotations)
    exact ⟨tokens, kind, _, scanned, named⟩
  | v1 =>
    obtain ⟨tokens, taken, read⟩ := Grammar.bind_eq_ok.mp read
    cases split : Positional.splitAtKind tokens with
    | none =>
      rw [split] at read
      cases read
    | some parts =>
      obtain ⟨before, kind, after⟩ := parts
      rw [split] at read
      obtain ⟨⟨name, rest⟩, named, read⟩ := Grammar.bind_eq_ok.mp (mapError_eq_ok.mp read)
      obtain ⟨_, -, read⟩ := Grammar.bind_eq_ok.mp read
      cases Grammar.pure_eq_ok.mp read
      refine ⟨tokens, kind, rest, taken, before, ?_⟩
      rw [← Grammar.word_eq_ok.mp named]
      exact (Positional.eq_of_splitAtKind split).symm

theorem ClassHeader.isSpelled_of_read {format : Format} {header : ClassHeader}
    (read : ClassHeader.read format line = .ok header) : IsSpelled header.declared := by
  obtain ⟨tokens, kind, rest, scanned, named⟩ := ClassHeader.declared_of_read read
  exact Line.isSpelled_of_tokensIn scanned (named.subset (by simp))

instance (text : String) : Decidable (IsSpelled text) :=
  List.decidableBAll (fun c => Token.isSpelling c = true) text.toList

theorem Token.IsSpelled.append {front back : String} (spelled : IsSpelled front) (other : IsSpelled back) :
    IsSpelled (front ++ back) := by
  intro c mem
  rw [String.toList_append] at mem
  rcases List.mem_append.mp mem with mem | mem
  · exact spelled c mem
  · exact other c mem

theorem isSpelled_fullname {name : ClassName} (package : IsSpelled name.package) (declared : IsSpelled name.declared) :
    IsSpelled name.fullname := by
  have dot : IsSpelled "." := by decide +kernel
  exact (package.append dot).append declared

theorem Class.isSpelled_of_read {package : Package} {format : Format} {c : Class} (named : IsSpelled package.name)
    (read : Class.read package format line = .ok c) : IsSpelled c.fullname := by
  obtain ⟨header, headed, rfl⟩ := map_eq_ok.mp read
  exact isSpelled_fullname named (ClassHeader.isSpelled_of_read headed)

end

/-! ## Names from dumps -/

namespace Reader

/-- The package and the class that are open have names of words. -/
structure Named (package : Option Package) (scope : Scope) : Prop where
  package : ∀ p, package = some p → IsSpelled p.name
  current : ∀ c, scope.current? = some c → IsSpelled c.fullname

variable {r : Reader}

theorem Named.of_readClass (named : Named r.package r.scope) {line : Line} {c : Class}
    (read : r.readClass line = .ok c) :
    IsSpelled c.fullname := by
  unfold Reader.readClass at read
  split at read
  next package opened => exact Class.isSpelled_of_read (named.package package opened) (mapError_eq_ok.mp read)
  next => cases read

/-- What a line leaves open has a name of words. -/
theorem Turn.named {line : Line} {package : Option Package} {scope : Scope} {handed : Option Class}
    (turn : Turn r line package scope handed) (named : Named r.package r.scope) : Named package scope := by
  cases turn with
  | pass => exact named
  | package read =>
    refine ⟨?_, named.current⟩
    rintro _ ⟨⟩
    exact Package.isSpelled_of_read read
  | noPackage => exact ⟨fun p opened => (by cases opened), named.current⟩
  | opened read =>
    refine ⟨named.package, ?_⟩
    rintro _ ⟨⟩
    exact named.of_readClass read
  | failed => exact ⟨named.package, fun c opened => (by cases opened)⟩
  | @member c d scope same =>
    refine ⟨named.package, ?_⟩
    rintro _ ⟨⟩
    rw [← same]
    exact named.current c (by rw [scope]; rfl)
  | ended => exact ⟨named.package, fun c opened => (by cases opened)⟩

theorem Named.feedAll (named : Named r.package r.scope) (lines : List String) :
    ∀ c ∈ (r.feedAll lines).2, IsSpelled c.fullname := by
  induction lines generalizing r with
  | nil =>
    intro c mem
    cases mem
  | cons line lines ih =>
    intro c mem
    have turn := feed_turn r line
    rw [feedAll_cons] at mem
    rcases List.mem_append.mp mem with ended | later
    · exact named.current c (turn.handed_eq (Option.mem_toList.mp ended))
    · exact ih (turn.named named) c later

end Reader

/-- **The full names of classes are spelled as words are**, whatever lines they are read from. -/
theorem isSpelled_of_mem_drain {file : String} {texts : List String} {c : Class}
    (mem : c ∈ (Stream.ofLines file texts).drain.1) : IsSpelled c.fullname := by
  have start : Reader.Named none .outside := ⟨fun p opened => (by cases opened), fun c opened => (by cases opened)⟩
  rw [Stream.ofLines, Stream.drain_eq] at mem
  exact @Reader.Named.feedAll (Reader.start file) start texts c mem

theorem isSpelled_of_mem_contents {d : Dump} {c : Class} (mem : c ∈ d.contents.classes) : IsSpelled c.fullname := by
  rw [← d.drain_stream.1] at mem
  exact isSpelled_of_mem_drain mem

/-! ## Texts before a mark -/

/-- Texts before the first of a mark are told apart. -/
theorem eq_of_append_mark {mark : Char} {x y left right : List Char} (hx : mark ∉ x) (hy : mark ∉ y)
    (same : x ++ mark :: left = y ++ mark :: right) : x = y ∧ left = right := by
  induction x generalizing y with
  | nil =>
    cases y with
    | nil => exact ⟨rfl, (List.cons.inj same).2⟩
    | cons c y => exact absurd ((List.cons.inj same).1 ▸ List.mem_cons_self) hy
  | cons c x ih =>
    cases y with
    | nil => exact absurd ((List.cons.inj same).1 ▸ List.mem_cons_self) hx
    | cons d y =>
      obtain ⟨rfl, more⟩ := List.cons.inj same
      obtain ⟨rfl, equal⟩ := ih (List.not_mem_of_not_mem_cons hx) (List.not_mem_of_not_mem_cons hy) more
      exact ⟨rfl, equal⟩

end SignatureLint
