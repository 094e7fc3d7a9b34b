import SignatureLint.Lint.Fingerprint
import SignatureLint.Proofs.Dump.RawText
import SignatureLint.Proofs.Hash.Digest

/-!
# What a fingerprint tells

A fingerprint hashes one text, in which the declaration of a class, its methods and its fields stand on lines of
their own, with nothing to mark where the methods end. Still the text tells all of them, in order
(`Class.fingerprintText_eq_iff`): no text of a declaration ends a line, so the lines of the hashed text are the texts
of the class, and of the members those of the methods are the ones that start as methods do. So two classes of dumps
have one fingerprint just if all their texts are equal, or if the bytes that are hashed are a collision of the hash
(`fingerprint_tells`).
-/

namespace SignatureLint

/-- Two lists are told from both together, if no item of one kind is of the other. -/
theorem append_inj_of_apart {α : Type} {One Other : α → Prop} (apart : ∀ a, One a → ¬ Other a) {xs ys xs' ys' : List α}
    (hxs : ∀ a ∈ xs, One a) (hys : ∀ a ∈ ys, Other a) (hxs' : ∀ a ∈ xs', One a) (hys' : ∀ a ∈ ys', Other a)
    (same : xs ++ ys = xs' ++ ys') : xs = xs' ∧ ys = ys' := by
  have nothing {as zs bs : List α} (one : ∀ a ∈ as ++ zs, One a) (other : ∀ a ∈ zs ++ bs, Other a) : zs = [] := by
    apply List.eq_nil_iff_forall_not_mem.mpr
    intro a mem
    exact apart a (one a (List.mem_append_right _ mem)) (other a (List.mem_append_left _ mem))
  rcases List.append_eq_append_iff.mp same with ⟨zs, rfl, rfl⟩ | ⟨zs, rfl, rfl⟩
  · rw [nothing hxs' hys]
    simp
  · rw [nothing hxs hys']
    simp

namespace Class

/-- The declarations of two classes have the same texts: those of the classes, of their methods in order, and of their
fields in order. -/
structure SameTexts (c d : Class) : Prop where
  declaration : c.origin.raw = d.origin.raw
  methods : c.methods.map (·.origin.raw) = d.methods.map (·.origin.raw)
  fields : c.fields.map (·.origin.raw) = d.fields.map (·.origin.raw)

theorem SameTexts.rawTexts_eq {c d : Class} (same : c.SameTexts d) : c.rawTexts = d.rawTexts := by
  rw [rawTexts, rawTexts, same.declaration, same.methods, same.fields]

/-- The bytes that the fingerprint of a class hashes. -/
def fingerprintBytes (c : Class) : List UInt8 := c.fingerprintText.toUTF8.toList

section

variable {c d : Class} (hc : c.TextsKept) (hd : d.TextsKept)

/-- The lines of the hashed text are the texts of the class. -/
theorem splitOn_fingerprintText {c : Class} (kept : c.TextsKept) :
    c.fingerprintText.toList.splitOn '\n' = c.rawTexts.map String.toList := by
  have joined : c.fingerprintText.toList = ['\n'].intercalate (c.rawTexts.map String.toList) :=
    String.toList_intercalate
  rw [joined]
  apply List.splitOn_intercalate
  · intro raw mem
    obtain ⟨text, memText, rfl⟩ := List.mem_map.mp mem
    exact kept.noLineEnd text memText
  · exact List.cons_ne_nil _ _

include hc hd

/-- **The hashed text tells all texts of a class**, and which of them are those of methods. -/
theorem fingerprintText_eq_iff : c.fingerprintText = d.fingerprintText ↔ c.SameTexts d := by
  constructor
  · intro same
    have lines : c.rawTexts.map String.toList = d.rawTexts.map String.toList := by
      rw [← splitOn_fingerprintText hc, ← splitOn_fingerprintText hd, same]
    have texts : c.rawTexts = d.rawTexts := List.map_injective_iff.mpr (fun _ _ => String.toList_inj.mp) lines
    obtain ⟨declaration, members⟩ := List.cons.inj texts
    obtain ⟨methods, fields⟩ :=
      append_inj_of_apart (fun _ => methodText_apart) hc.methods hc.fields hd.methods hd.fields members
    exact ⟨declaration, methods, fields⟩
  · intro same
    exact congrArg ("\n".intercalate) same.rawTexts_eq

theorem fingerprintBytes_eq_iff : c.fingerprintBytes = d.fingerprintBytes ↔ c.SameTexts d := by
  rw [← fingerprintText_eq_iff hc hd]
  exact ⟨Sha256.utf8_injective, fun same => by rw [fingerprintBytes, fingerprintBytes, same]⟩

end

end Class

/-- **A fingerprint tells the texts of a class.** Of two classes that streams hand out, from dumps in any format whose
lines hold no line end, the same bytes are hashed just if the two declarations, the methods in order and the fields
in order have the same texts. So the fingerprints are equal just if these texts are, unless the bytes are a collision
of the hash. -/
theorem fingerprint_tells {file file' : String} {texts texts' : List String}
    (lines : ∀ text ∈ texts, '\n' ∉ text.toList) (lines' : ∀ text ∈ texts', '\n' ∉ text.toList) {c d : Class}
    (hc : c ∈ (Stream.ofLines file texts).drain.1) (hd : d ∈ (Stream.ofLines file' texts').drain.1) :
    (c.fingerprintBytes = d.fingerprintBytes ↔ c.SameTexts d) ∧
      (c.fingerprint = d.fingerprint ↔ c.SameTexts d ∨ Sha256.Collide c.fingerprintBytes d.fingerprintBytes) := by
  have kept := Class.textsKept_of_mem_drain lines hc
  have kept' := Class.textsKept_of_mem_drain lines' hd
  refine ⟨Class.fingerprintBytes_eq_iff kept kept', ?_⟩
  rw [Class.fingerprint, Class.fingerprint, Sha256.hexDigest_eq_iff, Class.fingerprintText_eq_iff kept kept']
  rfl

/-- A class with two methods and a field, in format 1. -/
def orderedLines : List String := [
  "package p \x7b", "  class A \x7b", "    method void f();", "    method void g();", "    field int x;", "  \x7d"]

/-- The class with its methods in another order, in format 2. -/
def reorderedLines : List String := [
  "// Signature format: 2.0", "package p \x7b", "  class A \x7b", "    field int x;", "    method void g();",
  "    method void f();", "  \x7d"]

/-- Two methods in another order give another fingerprint, for the two texts are no collision. -/
theorem fingerprint_tells_reordered :
    (∀ text ∈ orderedLines, '\n' ∉ text.toList) ∧ (∀ text ∈ reorderedLines, '\n' ∉ text.toList) ∧
      ∃ c ∈ (Stream.ofLines "current.txt" orderedLines).drain.1,
      ∃ d ∈ (Stream.ofLines "previous.txt" reorderedLines).drain.1,
        c.rawTexts.Perm d.rawTexts ∧ c.fingerprintBytes ≠ d.fingerprintBytes ∧ c.fingerprint ≠ d.fingerprint := by
  have lines : ∀ text ∈ orderedLines, '\n' ∉ text.toList := by decide +kernel
  have lines' : ∀ text ∈ reorderedLines, '\n' ∉ text.toList := by decide +kernel
  have read : (Stream.ofLines "current.txt" orderedLines).drain.1.map Class.rawTexts =
      [["class A", "method void f()", "method void g()", "field int x"]] := by decide +kernel
  have read' : (Stream.ofLines "previous.txt" reorderedLines).drain.1.map Class.rawTexts =
      [["class A", "method void g()", "method void f()", "field int x"]] := by decide +kernel
  obtain ⟨c, hc, kept⟩ := List.mem_map.mp (read ▸ List.mem_singleton.mpr rfl)
  obtain ⟨d, hd, kept'⟩ := List.mem_map.mp (read' ▸ List.mem_singleton.mpr rfl)
  obtain ⟨hashed, told⟩ := fingerprint_tells lines lines' hc hd
  have differ : ¬ c.SameTexts d := by
    intro same
    have equal := same.rawTexts_eq
    rw [kept, kept'] at equal
    exact absurd equal (by decide)
  refine ⟨lines, lines', c, hc, d, hd, ?_, fun same => differ (hashed.mp same), fun same => ?_⟩
  · rw [kept, kept']
    decide
  · rcases told.mp same with equal | collide
    · exact differ equal
    · have hash : Sha256.hash ("\n".intercalate c.rawTexts).toUTF8.toList =
          Sha256.hash ("\n".intercalate d.rawTexts).toUTF8.toList := collide.hash
      rw [kept, kept'] at hash
      exact absurd hash (by decide +kernel)

end SignatureLint
