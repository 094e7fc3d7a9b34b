import SignatureLint.Proofs.Grammar.Header

/-!
# What a phrase leaves

What comes after a phrase is a suffix of the tokens that start with it (`LeavesSuffix`), so each part of a
declaration is made of tokens of its line. The line that opens a package or a class names it by one of its
words, and ends in a brace.
-/

namespace SignatureLint.Grammar

/-- What comes after the phrase is a suffix of the tokens that start with it. -/
def LeavesSuffix {α : Type} (p : Phrase α) : Prop := ∀ ts a rest, p ts a rest → rest <:+ ts

section

variable {α : Type} {p : Phrase α} {ts rest : List Token}

theorem OptionalToken.leavesSuffix (t : Token) : LeavesSuffix (OptionalToken t) := by
  intro ts given rest written
  cases written with
  | given => exact List.suffix_cons _ _
  | none => exact List.suffix_refl _

theorem OptionalGroup.suffix {opening closing : Token} (written : OptionalGroup opening closing ts rest) :
    rest <:+ ts := by
  cases written with
  | @group inner => exact ⟨opening :: (inner ++ [closing]), by simp⟩
  | none => exact List.suffix_refl _

theorem Announced.leavesSuffix (announced : Token) (leaves : LeavesSuffix p) :
    LeavesSuffix (Announced announced p) := by
  intro ts a rest written
  cases written with
  | given inner => exact (leaves _ _ _ inner).trans (List.suffix_cons _ _)
  | none => exact List.suffix_refl _

theorem Repeated.leavesSuffix (announced : Token) (leaves : LeavesSuffix p) :
    LeavesSuffix (Repeated announced p) := by
  intro ts as rest written
  induction written with
  | more inner _ ih => exact ih.trans ((leaves _ _ _ inner).trans (List.suffix_cons _ _))
  | done => exact List.suffix_refl _

theorem Words.leavesSuffix (allowed : List String) : LeavesSuffix (Words allowed) := by
  intro ts texts rest written
  induction written with
  | more _ _ ih => exact ih.trans (List.suffix_cons _ _)
  | done => exact List.suffix_refl _

theorem AnnotationPhrase.leavesSuffix : LeavesSuffix AnnotationPhrase := by
  intro ts text rest written
  cases written with
  | named arguments => exact arguments.suffix.trans (List.suffix_cons _ _)

theorem AnnotationPhrases.leavesSuffix : LeavesSuffix AnnotationPhrases :=
  Repeated.leavesSuffix .atSign AnnotationPhrase.leavesSuffix

theorem NamePhrase.leavesSuffix : LeavesSuffix NamePhrase := by
  intro ts name rest written
  cases written with
  | whole => exact List.suffix_cons _ _
  | continued _ annotations =>
    have left := (List.suffix_cons _ _).trans (AnnotationPhrases.leavesSuffix _ _ _ annotations)
    exact left.trans (List.suffix_cons _ _)

theorem SuffixPhrase.leavesSuffix : LeavesSuffix SuffixPhrase := by
  intro ts dimensions rest written
  cases written with
  | annotated annotation => exact (AnnotationPhrase.leavesSuffix _ _ _ annotation).trans (List.suffix_cons _ _)
  | array => exact List.suffix_cons _ _
  | nullable => exact List.suffix_cons _ _
  | nonNull => exact List.suffix_cons _ _

theorem SuffixPhrases.leavesSuffix : LeavesSuffix SuffixPhrases := by
  intro ts dimensions rest written
  induction written with
  | more first _ ih => exact ih.trans (SuffixPhrase.leavesSuffix _ _ _ first)
  | done => exact List.suffix_refl _

theorem TypePhrase.leavesSuffix : LeavesSuffix TypePhrase := by
  intro ts text rest written
  cases written with
  | type annotations name arguments suffixes =>
    have left := (SuffixPhrases.leavesSuffix _ _ _ suffixes).trans arguments.suffix
    exact (left.trans (NamePhrase.leavesSuffix _ _ _ name)).trans (AnnotationPhrases.leavesSuffix _ _ _ annotations)

theorem MoreTypesPhrase.leavesSuffix : LeavesSuffix MoreTypesPhrase := by
  intro ts texts rest written
  induction written with
  | more comma _ type _ ih =>
    exact (ih.trans (TypePhrase.leavesSuffix _ _ _ type)).trans (OptionalToken.leavesSuffix _ _ _ _ comma)
  | done comma => exact OptionalToken.leavesSuffix _ _ _ _ comma

theorem TypeListPhrase.leavesSuffix : LeavesSuffix TypeListPhrase := by
  intro ts texts rest written
  cases written with
  | types first more =>
    exact (MoreTypesPhrase.leavesSuffix _ _ _ more).trans (TypePhrase.leavesSuffix _ _ _ first)

end

/-! ## Headers -/

variable {ts : List Token}

/-- The header of a class ends in a brace. -/
theorem ClassLine.brace_suffix {kind : ClassKind} {header : ClassHeader} (written : ClassLine kind ts header) :
    [.punct '{'] <:+ ts := by
  cases written with
  | line annotations words arguments extended implemented =>
    have named := (Words.leavesSuffix _ _ _ _ words).trans (AnnotationPhrases.leavesSuffix _ _ _ annotations)
    have ended := (Announced.leavesSuffix _ TypeListPhrase.leavesSuffix _ _ _ implemented).trans
      (Announced.leavesSuffix _ TypeListPhrase.leavesSuffix _ _ _ extended)
    have afterName := (List.suffix_append [_, _] _).trans named
    exact (ended.trans arguments.suffix).trans afterName

/-- The tokens of a line that opens a package, and its name. -/
inductive PackageLine : List Token → String → Prop where
  | line {name : String} {annotations : List String} {annotated : List Token} :
    AnnotationPhrases annotated annotations [.word name, .punct '{'] → PackageLine (.word "package" :: annotated) name

theorem packageLine_of_packageHeader {name : String} {modifiers : Modifiers}
    (read : packageHeader ts = .ok (name, modifiers)) : PackageLine ts name := by
  obtain ⟨annotated, keywordRead, read⟩ := bind_eq_ok.mp read
  obtain ⟨⟨annotations, named⟩, annotationsRead, read⟩ := bind_eq_ok.mp read
  obtain ⟨⟨name', braced⟩, nameRead, read⟩ := bind_eq_ok.mp read
  obtain ⟨ended, braceRead, read⟩ := bind_eq_ok.mp read
  obtain ⟨_, finished, read⟩ := bind_eq_ok.mp read
  cases pure_eq_ok.mp read
  dsimp only at *
  rw [finish_eq_ok.mp finished] at braceRead
  rw [expect_eq_ok.mp braceRead] at nameRead
  rw [word_eq_ok.mp nameRead] at annotationsRead
  rw [expect_eq_ok.mp keywordRead]
  exact .line (annotations_eq_ok.mp annotationsRead)

theorem PackageLine.name_mem {name : String} (written : PackageLine ts name) : .word name ∈ ts := by
  cases written with
  | line annotations =>
    exact List.mem_cons_of_mem _ ((AnnotationPhrases.leavesSuffix _ _ _ annotations).subset (by simp))

end SignatureLint.Grammar
