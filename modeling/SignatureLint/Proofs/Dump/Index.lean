import Mathlib.Data.List.Nodup
import SignatureLint.CommandLine.Run
import SignatureLint.Proofs.Dump.Belonging
import SignatureLint.Proofs.Dump.BlankLines

/-!
# The index of a dump

An index finds what a dump declares first under a name (`SortedBy.find?_ofListNew`). Its packages are those of the
package lines that can be read (`Reader.packages_after`), so every class has its package in it
(`Dump.exists_package`), whether or not the line of that package is the one the class stands behind. Its listing names
the packages in order with their classes under them; read line by line, it has one line for each class
(`Dump.index_describes`).
-/

namespace SignatureLint

/-! ## First declarations -/

namespace SortedBy

variable {α : Type} {key : α → String}

theorem find?_foldl_insertNew (xs : List α) (s : SortedBy key) (k : String) :
    (xs.foldl insertNew s).find? k = (s.find? k).or (xs.find? fun a => key a == k) := by
  induction xs generalizing s with
  | nil => simp
  | cons x xs ih =>
    rw [List.foldl_cons, ih, find?_insertNew, Option.or_assoc, List.find?_cons]
    by_cases same : k = key x
    · rw [if_pos same, same, beq_self_eq_true, Option.some_or]
    · rw [if_neg same, beq_eq_false_iff_ne.mpr (Ne.symm same), Option.none_or]

/-- A key finds the first item that has it. -/
theorem find?_ofListNew (xs : List α) (k : String) :
    (ofListNew xs : SortedBy key).find? k = xs.find? fun a => key a == k := by
  rw [ofListNew, find?_foldl_insertNew]
  rfl

theorem exists_find?_ofListNew {xs : List α} {x : α} {k : String} (mem : x ∈ xs) (named : key x = k) :
    ∃ y, (ofListNew xs : SortedBy key).find? k = some y ∧ key y = k := by
  have found : (xs.find? fun a => key a == k).isSome = true :=
    List.find?_isSome.mpr ⟨x, mem, beq_iff_eq.mpr named⟩
  obtain ⟨y, first⟩ := Option.isSome_iff_exists.mp found
  exact ⟨y, (find?_ofListNew xs k).trans first, by simpa using List.find?_some first⟩

theorem mem_of_mem_ofListNew {xs : List α} {x : α} (mem : x ∈ (ofListNew xs : SortedBy key).items) : x ∈ xs := by
  have found : (ofListNew xs : SortedBy key).find? (key x) = some x := find?_eq_some_iff.mpr ⟨mem, rfl⟩
  rw [find?_ofListNew] at found
  exact List.mem_of_find?_eq_some found

end SortedBy

/-! ## Packages from lines -/

/-- The package that the line opens, if it is the line of a package and can be read. -/
def Line.package? (line : Line) : Option Package :=
  if line.startsWith "package" then (Package.read line).toOption else none

theorem Line.isSpelled_of_package? {line : Line} {p : Package} (opens : line.package? = some p) :
    Token.IsSpelled p.name := by
  unfold package? at opens
  split at opens
  · exact Package.isSpelled_of_read (Grammar.eq_ok_of_toOption opens)
  · cases opens

namespace Reader

variable {r : Reader} {line : Line}

theorem packages_dropOpen (r : Reader) : r.dropOpen.packages = r.packages := by
  unfold dropOpen
  split <;> rfl

theorem packages_openClass : (r.openClass line).packages = r.packages := by
  unfold openClass
  dsimp only
  split
  · exact packages_dropOpen r
  · exact packages_dropOpen r

theorem packages_addMember (add : Class → Except DeclarationError Class) :
    (r.addMember line add).packages = r.packages := by
  unfold addMember
  split
  · split <;> rfl
  · rfl
  · rfl

/-- A package line that can be read adds its package, and no other line does. -/
theorem packages_feedLine : (r.feedLine line).1.packages = r.packages ++ line.package?.toList := by
  by_cases start : line.startsWith "package" = true
  · rw [Line.package?, if_pos start, feedLine, Line.shape_eq_package_iff.mpr start]
    show (r.openPackage line).packages = _
    unfold openPackage
    cases Package.read line with
    | ok package => rfl
    | error e => exact (List.append_nil _).symm
  · rw [Line.package?, if_neg start, Option.toList_none, List.append_nil]
    unfold feedLine
    cases shape : line.shape with
    | package => exact absurd (Line.shape_eq_package_iff.mp shape) start
    | header => exact packages_openClass
    | method => exact packages_addMember _
    | field => exact packages_addMember _
    | close =>
      show r.close.1.packages = r.packages
      unfold close
      split <;> rfl
    | other => rfl

/-- A line that names a format is the line of no package. -/
theorem packages_feed (r : Reader) (text : String) :
    (r.feed text).1.packages = r.packages ++ (Line.ofText (r.line + 1) text).package?.toList := by
  unfold feed take
  dsimp only
  split
  next version names =>
    rw [Line.package?, Line.noPackage_of_version? names, if_neg Bool.false_ne_true, Option.toList_none,
      List.append_nil]
    unfold setFormat
    split <;> rfl
  next => exact packages_feedLine

/-- **The packages of a dump are those of its package lines that can be read**, in their order. -/
theorem packages_after (file : String) (texts : List String) :
    (after file texts).packages = (numbered texts).filterMap Line.package? := by
  induction texts using List.reverseRecOn with
  | nil => rfl
  | append_singleton texts text ih =>
    have count : ((start file).feedAll texts).1.line = texts.length := by
      rw [line_feedAll]
      exact Nat.zero_add _
    rw [numbered_snoc, Class.filterMap_snoc, ← ih, after, feedAll_snoc, ← count]
    exact packages_feed _ text

end Reader

theorem Dump.packages_eq (d : Dump) : d.contents.packages = (numbered (Text.lines d.text)).filterMap Line.package? :=
  (Reader.packages_dropOpen _).trans (Reader.packages_after d.name _)

/-- The package of a class is named by a line that was read. -/
theorem Dump.exists_package (d : Dump) {c : Class} (mem : c ∈ d.contents.classes) :
    ∃ p ∈ d.contents.packages, p.name = c.package := by
  rw [← d.drain_stream.1] at mem
  obtain ⟨before, header, body, ending, after, split, -, made⟩ :=
    (Reader.tells_after d.name (Text.lines d.text)).handed c mem
  obtain ⟨place, package, nearest, read, name⟩ := made.standsOn.package
  have start : place.startsWith "package" = true := by simpa using List.find?_some nearest
  have listed : place ∈ numbered (Text.lines d.text) := by
    rw [split]
    exact List.mem_append_left _ (List.mem_reverse.mp (List.mem_of_find?_eq_some nearest))
  refine ⟨package, ?_, name.symm⟩
  rw [d.packages_eq]
  refine List.mem_filterMap.mpr ⟨place, listed, ?_⟩
  rw [Line.package?, if_pos start, read]
  rfl

/-! ## Lines of a listing -/

/-- The text holds no character of a line's end. -/
def OneLine (text : String) : Prop := ∀ c ∈ text.toList, c ≠ '\n' ∧ c ≠ '\r'

instance (text : String) : Decidable (OneLine text) :=
  List.decidableBAll (fun c => c ≠ '\n' ∧ c ≠ '\r') text.toList

theorem OneLine.append {front back : String} (one : OneLine front) (other : OneLine back) :
    OneLine (front ++ back) := by
  intro c mem
  rw [String.toList_append] at mem
  rcases List.mem_append.mp mem with mem | mem
  · exact one c mem
  · exact other c mem

theorem oneLine_toString (n : Nat) : OneLine (toString n) := by
  intro c mem
  rw [Nat.toString_eq_repr, Nat.toList_repr] at mem
  have digit : c.isDigit = true := Nat.isDigit_of_mem_toDigits (by decide) (Nat.le_refl 10) mem
  exact ⟨fun same => absurd (same ▸ digit) (by decide), fun same => absurd (same ▸ digit) (by decide)⟩

theorem Token.IsSpelled.oneLine {text : String} (spelled : Token.IsSpelled text) : OneLine text := fun c mem =>
  ⟨fun same => absurd (same ▸ spelled c mem) (by decide), fun same => absurd (same ▸ spelled c mem) (by decide)⟩

/-- Texts that are printed on lines of their own are read as these lines. -/
theorem Text.lines_printLines {texts : List String} (one : ∀ text ∈ texts, OneLine text) :
    lines (printLines texts) = texts := by
  induction texts with
  | nil => rfl
  | cons text texts ih =>
    have ⟨here, later⟩ := List.forall_mem_cons.mp one
    have printed : (printLines (text :: texts)).toList = text.toList ++ '\n' :: (printLines texts).toList := by
      rw [printLines, List.map_cons, String.join_cons, String.append_assoc, String.toList_append, String.toList_append]
      rfl
    have whole : dropReturn text.toList = text.toList := if_neg fun last => (here _ (List.mem_of_getLast? last)).2 rfl
    rw [lines, printed, List.splitOn_append_cons_self, List.splitOn_eq_singleton fun mem => (here _ mem).1 rfl,
      List.singleton_append, linesOfPieces_cons (List.splitOn_ne_nil _ _), List.map_cons, whole, String.ofList_toList]
    exact congrArg (text :: ·) (ih later)

namespace Class

variable {c d : Class}

theorem oneLine_display (spelled : Token.IsSpelled c.fullname) : OneLine c.display := by
  have kind : OneLine c.kind.keyword := by cases c.kind <;> decide +kernel
  have margin : OneLine "  " := by decide +kernel
  have blank : OneLine " " := by decide +kernel
  have opening : OneLine " (" := by decide +kernel
  have methods : OneLine " methods, " := by decide +kernel
  have fields : OneLine " fields)" := by decide +kernel
  have named := (((margin.append kind).append blank).append spelled.oneLine).append opening
  exact (((named.append (oneLine_toString _)).append methods).append (oneLine_toString _)).append fields

theorem toList_display (c : Class) : ∃ counts, c.display.toList =
    ' ' :: ' ' :: (c.kind.keyword.toList ++ ' ' :: (c.fullname.toList ++ ' ' :: counts)) := by
  refine ⟨('(' :: (toString c.methods.length).toList) ++ (" methods, ".toList ++
    ((toString c.fields.length).toList ++ " fields)".toList)), ?_⟩
  simp only [display, String.toList_append, List.append_assoc]
  rfl

/-- The line of a class tells its full name. -/
theorem fullname_eq_of_display (hc : Token.IsSpelled c.fullname) (hd : Token.IsSpelled d.fullname)
    (same : c.display = d.display) : c.fullname = d.fullname := by
  obtain ⟨counts, shown⟩ := c.toList_display
  obtain ⟨counts', shown'⟩ := d.toList_display
  have keyword (kind : ClassKind) : ' ' ∉ kind.keyword.toList := by cases kind <;> decide
  have noBlank {text : String} (spelled : Token.IsSpelled text) : ' ' ∉ text.toList := fun mem =>
    absurd (spelled _ mem) (by decide)
  rw [← String.toList_inj, shown, shown', List.cons_inj_right, List.cons_inj_right] at same
  obtain ⟨-, named⟩ := eq_of_append_mark (keyword _) (keyword _) same
  exact String.toList_inj.mp (eq_of_append_mark (noBlank hc) (noBlank hd) named).1

end Class

/-! ## The index and its listing -/

namespace Index

variable {i : Index}

theorem mem_classesIn {package : String} {c : Class} :
    c ∈ i.classesIn package ↔ c ∈ i.classes.items ∧ c.package = package := by
  rw [classesIn, List.mem_filter, decide_eq_true_eq]

/-- Where every class has its package, the classes under the packages are all classes, each once. -/
theorem perm_listing (placed : ∀ c ∈ i.classes.items, ∃ p ∈ i.packages.items, p.name = c.package) :
    (i.listing.flatMap Prod.snd).Perm i.classes.items := by
  have nodup : (i.listing.flatMap Prod.snd).Nodup := by
    rw [listing, List.flatMap_map, List.nodup_flatMap]
    refine ⟨fun p _ => i.classes.nodup.filter _, i.packages.increasing.imp ?_⟩
    intro p q before c here there
    have same : p.name = q.name := (mem_classesIn.mp here).2.symm.trans (mem_classesIn.mp there).2
    exact String.lt_irrefl _ (same ▸ before)
  refine (List.perm_ext_iff_of_nodup nodup i.classes.nodup).mpr fun c => ?_
  rw [listing, List.flatMap_map, List.mem_flatMap]
  constructor
  · rintro ⟨p, -, mem⟩
    exact (mem_classesIn.mp mem).1
  · intro mem
    obtain ⟨p, listed, name⟩ := placed c mem
    exact ⟨p, listed, mem_classesIn.mpr ⟨mem, name.symm⟩⟩

/-- The lines that the listing is printed as. -/
def lines (i : Index) : List String :=
  ("Signature format " ++ toString i.format.number) ::
    i.packages.items.flatMap fun p => ("package " ++ p.name) :: (i.classesIn p.name).map Class.display

theorem lines_stdout (packages : ∀ p ∈ i.packages.items, Token.IsSpelled p.name)
    (classes : ∀ c ∈ i.classes.items, Token.IsSpelled c.fullname) :
    Text.lines (i.outcome .text false).stdout = i.lines := by
  have shown : (i.outcome .text false).stdout = printLines i.lines := by
    show i.display = _
    rw [display, lines, listing, List.flatMap_map]
  rw [shown]
  refine Text.lines_printLines (List.forall_mem_cons.mpr ⟨?_, ?_⟩)
  · exact (show OneLine "Signature format " by decide +kernel).append (oneLine_toString _)
  · intro text mem
    obtain ⟨p, listed, mem⟩ := List.mem_flatMap.mp mem
    rcases List.mem_cons.mp mem with rfl | mem
    · exact (show OneLine "package " by decide +kernel).append (packages p listed).oneLine
    · obtain ⟨c, under, rfl⟩ := List.mem_map.mp mem
      exact Class.oneLine_display (classes c (mem_classesIn.mp under).1)

/-- No class is shown as the first line or the line of a package. -/
theorem count_lines (c : Class) :
    i.lines.count c.display = ((i.listing.flatMap Prod.snd).map Class.display).count c.display := by
  obtain ⟨counts, shown⟩ := c.toList_display
  have notHeading (start back : String) {first : Char} {more : List Char}
      (begins : start.toList = first :: more) (differs : first ≠ ' ') : start ++ back ≠ c.display := by
    intro same
    rw [← String.toList_inj, String.toList_append, begins, shown] at same
    exact differs (List.cons.inj same).1
  have format := notHeading "Signature format " (toString i.format.number) rfl (by decide)
  rw [lines, List.count_cons_of_ne format, List.map_flatMap, listing, List.flatMap_map, List.count_flatMap,
    List.count_flatMap]
  refine congrArg List.sum (List.map_congr_left fun p _ => ?_)
  exact List.count_cons_of_ne (notHeading "package " p.name rfl (by decide))

end Index

/-- The index says of the dump what stands in it first under each name, and shows it by package. -/
structure Index.Describes (i : Index) (d : Dump) : Prop where
  /-- A full name finds the first class that is handed out under it. -/
  class_eq : ∀ fullname, i.class? fullname = d.stream.drain.1.find? (·.fullname == fullname)
  /-- A name finds the package of the first line that can be read as one of that name. -/
  package_eq : ∀ name,
    i.package? name = ((numbered (Text.lines d.text)).filterMap Line.package?).find? (·.name == name)
  packageOf : ∀ c ∈ i.classes.items, ∃ p, i.packageOf? c = some p ∧ p.name = c.package
  classesIn : ∀ package c, c ∈ i.classesIn package ↔ i.class? c.fullname = some c ∧ c.package = package
  classesInIncreasing : ∀ package, (i.classesIn package).Pairwise fun a b => a.fullname < b.fullname
  packagesIncreasing : i.packages.items.Pairwise fun p q => p.name < q.name
  /-- The classes under the packages are the classes of the index, each once. -/
  listing : (i.listing.flatMap Prod.snd).Perm i.classes.items
  printed : Text.lines (i.outcome .text false).stdout = i.lines
  printedOnce : ∀ c ∈ i.classes.items, (Text.lines (i.outcome .text false).stdout).count c.display = 1

/-- **The index of a dump holds what stands first under each name**, no class is in it without its package, and what
is printed of it shows the packages in order and every class once. -/
theorem Dump.index_describes (d : Dump) : d.contents.index.Describes d := by
  have spelled : ∀ c ∈ d.contents.index.classes.items, Token.IsSpelled c.fullname := fun c mem =>
    isSpelled_of_mem_contents (SortedBy.mem_of_mem_ofListNew mem)
  have spelledPackages : ∀ p ∈ d.contents.index.packages.items, Token.IsSpelled p.name := by
    intro p mem
    have read : p ∈ d.contents.packages := SortedBy.mem_of_mem_ofListNew mem
    rw [d.packages_eq] at read
    obtain ⟨line, -, package⟩ := List.mem_filterMap.mp read
    exact Line.isSpelled_of_package? package
  have placed : ∀ c ∈ d.contents.index.classes.items, ∃ p, d.contents.index.packageOf? c = some p ∧
      p.name = c.package := by
    intro c mem
    obtain ⟨p, read, name⟩ := d.exists_package (SortedBy.mem_of_mem_ofListNew mem)
    exact SortedBy.exists_find?_ofListNew read name
  have printed : Text.lines (d.contents.index.outcome .text false).stdout = d.contents.index.lines :=
    Index.lines_stdout spelledPackages spelled
  have perm : (d.contents.index.listing.flatMap Prod.snd).Perm d.contents.index.classes.items :=
    Index.perm_listing fun c mem =>
      let ⟨p, found, name⟩ := placed c mem
      ⟨p, (SortedBy.find?_eq_some_iff.mp found).1, name⟩
  constructor
  case class_eq =>
    intro fullname
    rw [d.drain_stream.1]
    exact SortedBy.find?_ofListNew _ _
  case package_eq =>
    intro name
    rw [← d.packages_eq]
    exact SortedBy.find?_ofListNew _ _
  case packageOf => exact placed
  case classesIn =>
    intro package c
    rw [Index.mem_classesIn, Index.class?, SortedBy.find?_eq_some_iff, and_iff_left rfl]
  case classesInIncreasing => exact fun package => d.contents.index.classes.increasing.filter _
  case packagesIncreasing => exact d.contents.index.packages.increasing
  case listing => exact perm
  case printed => exact printed
  case printedOnce =>
    intro c mem
    rw [printed, Index.count_lines, (perm.map Class.display).count_eq]
    refine List.count_eq_one_of_mem (List.Nodup.map_on ?_ d.contents.index.classes.nodup) (List.mem_map_of_mem mem)
    intro a ha b hb same
    exact SortedBy.eq_of_mem ha hb (Class.fullname_eq_of_display (spelled a ha) (spelled b hb) same)

/-- A package is opened again, with a class a second time; one line of a package cannot be read; and two packages
declare one full name. -/
def reopenedDump : Dump where
  name := "reopened.txt"
  text := printLines [
    "package a \x7b", "  class b.C \x7b", "  \x7d", "  class Z \x7b", "  \x7d", "\x7d",
    "package a.b \x7b", "  class C \x7b", "  \x7d", "\x7d", "package",
    "package a \x7b", "  class A \x7b", "  \x7d", "  final class Z \x7b", "  \x7d", "\x7d"]

theorem index_describes_reopened : reopenedDump.contents.index.Describes reopenedDump ∧
    reopenedDump.contents.index.listing.map (fun (p, classes) => (p.name, classes.map Class.display)) =
      [("a", ["  class a.A (0 methods, 0 fields)", "  class a.Z (0 methods, 0 fields)",
        "  class a.b.C (0 methods, 0 fields)"]), ("a.b", [])] :=
  ⟨reopenedDump.index_describes, by decide +kernel⟩

end SignatureLint
