import SignatureLint.Proofs.Dump.BlankLines
import SignatureLint.Proofs.Lint.Counter
import SignatureLint.Proofs.Lint.Origin
import SignatureLint.Proofs.Pairing.Replay

/-!
# A dump that did not change

A current dump that differs from the previous one by blank lines alone, beside a baseline that differs
from the previous baseline by blank lines alone, has nothing new (`check_blankLinesAdded`). The classes
stand in any order: the two examinations visit alike classes because the names that found a counterpart
in the first change nothing in the second, and alike views have the same signatures and fingerprints
(`nothing_new_of_blankLinesAdded`). Blank lines move the lines after them; that no line is moved to where a counter
of 32 bits has its number a second time is what the report of such a program asks for.
-/

namespace SignatureLint

/-- The baseline with blank lines put in after its first line; none for none. -/
abbrev BaselinePadded (base padded : Option Dump) : Prop :=
  Option.Rel (fun b b' => BlankLinesAdded b.text b'.text) base padded

/-- The classes of a baseline; none for none. -/
def baselineClasses (base : Option Dump) : List Class := ((base.map Dump.contents).map Contents.classes).getD []

theorem BaselinePadded.classes_alike {base padded : Option Dump} (added : BaselinePadded base padded) :
    (baselineClasses padded).map (Class.mapOrigin Origin.unnumbered) =
      (baselineClasses base).map (Class.mapOrigin Origin.unnumbered) := by
  cases added with
  | none => rfl
  | some added => exact added.classes_alike

theorem visits_examinedWalk (current : Dump) (base : Option Dump) (known : List ClassName) :
    (examinedWalk current base known).visits = listWalk known (baselineClasses base) current.contents.classes :=
  Walk.visits_eq_listWalk _ _ _

section

variable {current padded : Dump} {base paddedBase : Option Dump} (added : BlankLinesAdded current.text padded.text)
  (addedBase : BaselinePadded base paddedBase)

include added addedBase

/-- Without known names, the walks are alike. -/
theorem listWalk_alike :
    (listWalk [] (baselineClasses paddedBase) padded.contents.classes).map
        (Visit.map (Class.mapOrigin Origin.unnumbered)) =
      (listWalk [] (baselineClasses base) current.contents.classes).map
        (Visit.map (Class.mapOrigin Origin.unnumbered)) := by
  have keeps (c : Class) : (c.mapOrigin Origin.unnumbered).className = c.className := Class.className_mapOrigin
  rw [← listWalk_map keeps, ← listWalk_map keeps, added.classes_alike, addedBase.classes_alike]

/-- The same names find a counterpart. -/
theorem classesWithBase_alike :
    (examinedWalk padded paddedBase []).classesWithBase =
      pairedNames (listWalk [] (baselineClasses base) current.contents.classes) := by
  have names (visits : List Visit) :
      pairedNames (visits.map (Visit.map (Class.mapOrigin Origin.unnumbered))) = pairedNames visits := by
    rw [pairedNames, List.filterMap_map, pairedNames]
    congr 1
    funext v
    exact pairedName?_map (fun _ => Class.className_mapOrigin) v
  rw [Walk.classesWithBase, visits_examinedWalk, ← names (listWalk [] (baselineClasses base) _),
    ← listWalk_alike added addedBase, names]
  rfl

/-- Both examinations see alike views, in one order. -/
theorem views_alike :
    (examinedWalk padded paddedBase []).views.map (ClassView.mapOrigin Origin.unnumbered) =
      (examinedWalk current base (examinedWalk padded paddedBase []).classesWithBase).views.map
        (ClassView.mapOrigin Origin.unnumbered) := by
  have views (visits : List Visit) :
      (visits.map Visit.view).map (ClassView.mapOrigin Origin.unnumbered) =
        (visits.map (Visit.map (Class.mapOrigin Origin.unnumbered))).map Visit.view := by
    rw [List.map_map, List.map_map]
    apply List.map_congr_left
    intro v _
    cases v with
    | current own counterpart => rfl
    | known b => rfl
  rw [Walk.views, Walk.views, views, views, visits_examinedWalk, visits_examinedWalk,
    classesWithBase_alike added addedBase, listWalk_pairedNames, listWalk_alike added addedBase]

end

/-- Where nothing but blank lines was put in, nothing is new. -/
theorem nothing_new_of_blankLinesAdded (config : Config) {current padded : Dump} {base paddedBase : Option Dump}
    (added : BlankLinesAdded current.text padded.text) (addedBase : BaselinePadded base paddedBase) :
    (check config ⟨padded, paddedBase, some current, base⟩).failures = .empty ∧
      (check config ⟨padded, paddedBase, some current, base⟩).noticed = .empty := by
  have alike := views_alike added addedBase
  have given : (Dumps.mk padded paddedBase (some current) base).previous = some current := rfl
  rw [check_of_previous given]
  constructor
  · apply Report.failures_without_of_subset
    intro v mem
    obtain ⟨view, memView, found, memFound, on, rfl⟩ := found_of_mem_examine mem
    have mapped := List.mem_map_of_mem (f := ClassView.mapOrigin Origin.unnumbered) memView
    rw [alike] at mapped
    obtain ⟨view', memView', same⟩ := List.mem_map.mp mapped
    obtain ⟨found', memFound', rule, signature⟩ := exists_signature_of_alike same.symm memFound
    rw [← signature]
    exact signature_mem_examine memView' memFound' (rule ▸ on)
  · apply Report.noticed_without_of_eq
    rw [currentReport, earlierReport, noticed_examine, noticed_examine]
    exact noticed_alike (f := Origin.unnumbered) (fun _ => rfl) alike

/-- The package `p` with two classes out of order, with these lines between its own and the first class's,
and between the members of that class and its end. -/
def unsortedDump (before within : String) : Dump where
  name := "current.txt"
  text := "package p \x7b\n" ++ before ++ "  public class B \x7b\n" ++
    "    method public void f() throws java.lang.Exception;\n" ++ within ++ "  \x7d\n" ++
    "  public class A \x7b\n  \x7d\n\x7d\n"

end SignatureLint
