import Mathlib.Data.List.Nodup
import SignatureLint.Proofs.Lint.Configuration

/-!
# A class by itself

All classes of an examination share what is recorded, and a finding is dropped if its signature is there
already. Yet no class is judged by another: a signature tells the full name of its class, so findings in
classes of different names are apart (`findingsIn_apart`), and findings that are apart from all before them
are recorded as if nothing were there (`Findings.recordAll_apart`). So what an examination reports is, class
by class, what each class gets alone (`examine_classwise`).
-/

namespace SignatureLint

/-! ## One entry for each name -/

namespace SortedBy

variable {α : Type} {key : α → String} {s : SortedBy key} {xs : List α}

theorem mem_foldl_insert (distinct : (xs.map key).Nodup) {y : α} :
    y ∈ (xs.foldl insert s).items ↔ y ∈ xs ∨ (y ∈ s.items ∧ key y ∉ xs.map key) := by
  induction xs generalizing s with
  | nil => simp
  | cons x xs ih =>
    obtain ⟨fresh, distinct⟩ := List.nodup_cons.mp distinct
    have apart : y ∈ xs → key y ≠ key x := fun mem same => fresh (same ▸ List.mem_map_of_mem mem)
    rw [List.foldl_cons, ih distinct, mem_insert, List.mem_cons, List.map_cons, List.mem_cons, not_or]
    constructor
    · rintro (later | ⟨rfl | ⟨before, differs⟩, passed⟩)
      · exact .inl (.inr later)
      · exact .inl (.inl rfl)
      · exact .inr ⟨before, differs, passed⟩
    · rintro ((rfl | later) | ⟨before, differs, passed⟩)
      · exact .inr ⟨.inl rfl, fresh⟩
      · exact .inl later
      · exact .inr ⟨.inr ⟨before, differs⟩, passed⟩

/-- Items of different keys are all kept. -/
theorem perm_ofList (distinct : (xs.map key).Nodup) : (ofList xs : SortedBy key).items.Perm xs := by
  refine (List.perm_ext_iff_of_nodup (nodup _) (List.Nodup.of_map key distinct)).mpr fun y => ?_
  rw [ofList, mem_foldl_insert distinct]
  exact ⟨fun h => h.elim id fun unlisted => absurd unlisted.1 List.not_mem_nil, .inl⟩

end SortedBy

/-! ## Findings that are apart -/

namespace Findings

variable {config : Config} {fs : Findings} {before : List Violation}

theorem record_apart {f : Finding} (apart : ∀ v ∈ before, v.signature ≠ f.violation.signature) :
    (mk (before ++ fs.violations)).record config f = mk (before ++ (fs.record config f).violations) := by
  have unseen : (before.any fun v => v.signature == f.violation.signature) = false :=
    List.any_eq_false.mpr fun v mem => by simpa using apart v mem
  have seen : (mk (before ++ fs.violations)).hasSeen f.violation.signature = fs.hasSeen f.violation.signature := by
    rw [hasSeen, List.any_append, unseen, Bool.false_or]
    rfl
  rw [record, record, seen]
  split
  · exact congrArg mk (List.append_assoc _ _ _)
  · rfl

/-- What is apart from what is there is recorded as it would be without it. -/
theorem recordAll_apart {findings : List Finding}
    (apart : ∀ v ∈ before, ∀ f ∈ findings, v.signature ≠ f.violation.signature) :
    (mk (before ++ fs.violations)).recordAll config findings =
      mk (before ++ (fs.recordAll config findings).violations) := by
  induction findings generalizing fs with
  | nil => rfl
  | cons f findings ih =>
    rw [recordAll_cons, recordAll_cons, record_apart fun v mem => apart v mem f List.mem_cons_self]
    exact ih fun v mem g memG => apart v mem g (List.mem_cons_of_mem _ memG)

/-- Findings with no signature in common. -/
def Apart (findings more : List Finding) : Prop :=
  ∀ f ∈ findings, ∀ g ∈ more, f.violation.signature ≠ g.violation.signature

/-- Lists of findings that are apart are recorded each by itself. -/
theorem recordAll_flatMap {α : Type} {items : List α} {found : α → List Finding}
    (apart : items.Pairwise fun a b => Apart (found a) (found b)) :
    (empty.recordAll config (items.flatMap found)).violations =
      items.flatMap fun a => (empty.recordAll config (found a)).violations := by
  induction items with
  | nil => rfl
  | cons a items ih =>
    obtain ⟨here, later⟩ := List.pairwise_cons.mp apart
    let first := empty.recordAll config (found a)
    have fromFirst : ∀ v ∈ first.violations, ∀ g ∈ items.flatMap found, v.signature ≠ g.violation.signature := by
      intro v mem g memG
      rcases mem_recordAll mem with unlisted | ⟨f, memF, -, rfl⟩
      · cases unlisted
      · obtain ⟨b, memB, found⟩ := List.mem_flatMap.mp memG
        exact here b memB f memF g found
    calc (empty.recordAll config ((a :: items).flatMap found)).violations
        = ((mk (first.violations ++ empty.violations)).recordAll config (items.flatMap found)).violations := by
          rw [List.flatMap_cons, recordAll, List.foldl_append, show empty.violations = [] from rfl, List.append_nil]
          rfl
      _ = first.violations ++ (empty.recordAll config (items.flatMap found)).violations := by
          rw [recordAll_apart fromFirst]
      _ = (a :: items).flatMap fun a => (empty.recordAll config (found a)).violations := by
          rw [ih later, List.flatMap_cons]

end Findings

/-! ## Classes of different names -/

section

variable {config : Config} {current : Dump} {base : Option Dump} {known : List ClassName}

/-- What is found in a view is about its class. -/
theorem subject_of_mem_findingsIn {v : ClassView} {f : Finding} (mem : f ∈ findingsIn config v) :
    f.subject = v.own := by
  unfold findingsIn at mem
  split at mem
  · cases mem
  · obtain ⟨r, enabled, found⟩ := List.mem_flatMap.mp mem
    exact (foundBy_of_mem_check (List.mem_filter.mp enabled).1 found).subject

theorem isSpelled_of_mem_views {v : ClassView} (mem : v ∈ (examinedWalk current base known).views) :
    Token.IsSpelled v.own.fullname := by
  obtain ⟨d, -, declared⟩ := own_mem_of_mem_views mem
  exact isSpelled_of_mem_contents declared

/-- Findings in classes of different full names have different signatures. -/
theorem findingsIn_apart {v w : ClassView} (hv : Token.IsSpelled v.own.fullname) (hw : Token.IsSpelled w.own.fullname)
    (differ : v.own.fullname ≠ w.own.fullname) : Findings.Apart (findingsIn config v) (findingsIn config w) := by
  intro f memF g memG same
  have subject := subject_of_mem_findingsIn memF
  have subject' := subject_of_mem_findingsIn memG
  have className := className_eq_of_signature (f := f) (g := g) (subject ▸ hv) (subject' ▸ hw) same
  rw [subject, subject'] at className
  exact differ className

theorem findingsIn_pairwise_apart
    (distinct : ((examinedWalk current base known).views.map fun v => v.own.fullname).Nodup) :
    (examinedWalk current base known).views.Pairwise fun v w =>
      Findings.Apart (findingsIn config v) (findingsIn config w) := by
  refine (List.pairwise_map.mp distinct).imp_of_mem fun memV memW differ => ?_
  exact findingsIn_apart (isSpelled_of_mem_views memV) (isSpelled_of_mem_views memW) differ

/-! ## Class by class -/

/-- What is reported of a class that is checked alone, with nothing recorded before. -/
def aloneReport (config : Config) (v : ClassView) : Report :=
  (Findings.empty.recordAll config ((enabledRules config).flatMap (·.check v))).report

/-- A class of a package that is not examined records nothing, and any other what it records alone. -/
theorem failuresOf_findingsIn (v : ClassView) (rule : String) :
    (Findings.empty.recordAll config (findingsIn config v)).report.failuresOf rule =
      if config.ignores v.own.package then [] else (aloneReport config v).failuresOf rule := by
  rw [findingsIn]
  cases config.ignores v.own.package with
  | true => rfl
  | false => rfl

theorem failuresOf_examine (rule : String) :
    (examine config current base known).failuresOf rule =
      (findingsOn config (examinedWalk current base known)).report.failuresOf rule := by
  rw [Report.failuresOf, failures_examine]
  rfl

theorem filled_examine : (examine config current base known).Filled := by
  intro failure mem
  rw [failures_examine] at mem
  exact Findings.filled_report _ failure mem

end

/-- **No class is judged by another.** If no two classes in view have one full name, each rule has, class by class
in the order of the walk, the violations that it has for the class alone; classes of packages that are not
examined have none. No rule is listed without a violation. Each class in view is noticed once, whatever its
package. -/
theorem examine_classwise (config : Config) (current : Dump) (base : Option Dump) (known : List ClassName)
    (distinct : ((examinedWalk current base known).views.map fun v => v.own.fullname).Nodup) :
    let views := (examinedWalk current base known).views
    let report := examine config current base known
    (∀ rule, report.failuresOf rule =
      (views.filter fun v => !config.ignores v.own.package).flatMap fun v => (aloneReport config v).failuresOf rule) ∧
      report.Filled ∧
      report.noticed.items.Perm (views.map fun v => (v.own.fullname, v.own.fingerprint)) := by
  intro views report
  refine ⟨?_, filled_examine, ?_⟩
  · intro rule
    have recorded : (findingsOn config (examinedWalk current base known)).violations =
        views.flatMap fun v => (Findings.empty.recordAll config (findingsIn config v)).violations :=
      Findings.recordAll_flatMap (findingsIn_pairwise_apart distinct)
    have examined : (views.filter fun v => !config.ignores v.own.package).flatMap
          (fun v => (Findings.empty.recordAll config (findingsIn config v)).report.failuresOf rule) =
        views.flatMap fun v => (Findings.empty.recordAll config (findingsIn config v)).report.failuresOf rule := by
      apply flatMap_filter_of_eq_nil
      intro v _ ignored
      rw [failuresOf_findingsIn, if_pos (by simpa using ignored)]
    calc report.failuresOf rule
        = views.flatMap fun v => (Findings.empty.recordAll config (findingsIn config v)).report.failuresOf rule := by
          rw [failuresOf_examine, Findings.failuresOf_report, recorded, List.filter_flatMap]
          simp only [Findings.failuresOf_report]
      _ = (views.filter fun v => !config.ignores v.own.package).flatMap
            fun v => (aloneReport config v).failuresOf rule := by
          rw [← examined]
          apply List.flatMap_congr
          intro v mem
          rw [failuresOf_findingsIn, if_neg (by simpa using (List.mem_filter.mp mem).2)]
  · rw [show report.noticed = noticedIn (examinedWalk current base known) from noticed_examine, noticedIn]
    apply SortedBy.perm_ofList
    rw [List.map_map]
    exact distinct

/-- A dump with misnamed classes, one of them in a package that is not examined. -/
def misnamed : Dump where
  name := "current.txt"
  text := "package java.util \x7b\n  class ThingsObserver \x7b\n  \x7d\n" ++
    "package p \x7b\n  class AObserver \x7b\n  \x7d\n  class BCallbacks \x7b\n  \x7d\n"

/-- A baseline with a misnamed class that the dump lacks. -/
def misnamedBase : Dump where
  name := "base.txt"
  text := "package q \x7b\n  class CObserver \x7b\n  \x7d\n"

/-- Of four classes in view, one of them a known class, three are examined, each with a violation of its own, and
all are noticed. -/
theorem examine_classwise_misnamed :
    let known := [ClassName.mk "q" "CObserver"]
    let views := (examinedWalk misnamed (some misnamedBase) known).views
    let report := examine {} misnamed (some misnamedBase) known
    (views.map fun v => v.own.fullname).Nodup ∧
      report.failuresOf "L1" =
        (views.filter fun v => !Config.ignores {} v.own.package).flatMap
          (fun v => (aloneReport {} v).failuresOf "L1") ∧
      (report.failuresOf "L1").map Violation.className = ["p.AObserver", "p.BCallbacks", "q.CObserver"] ∧
      report.noticed.items.length = 4 := by
  intro known views report
  have evaluated : (views.map fun v => v.own.fullname).Nodup ∧
      (report.failuresOf "L1").map Violation.className = ["p.AObserver", "p.BCallbacks", "q.CObserver"] ∧
      (views.map fun v => (v.own.fullname, v.own.fingerprint)).length = 4 := by decide +kernel
  obtain ⟨distinct, listed, four⟩ := evaluated
  obtain ⟨failures, -, noticed⟩ := examine_classwise {} misnamed (some misnamedBase) known distinct
  exact ⟨distinct, failures "L1", listed, noticed.length_eq.trans four⟩

end SignatureLint
