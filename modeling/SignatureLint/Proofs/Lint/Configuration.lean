import SignatureLint.Proofs.Lint.Restrict
import SignatureLint.Proofs.Lint.Signature
import SignatureLint.Proofs.Pairing.Walk

/-!
# What a configuration leaves out

A configuration decides which findings are recorded (`Config.admits`) and nothing else: which rules are asked,
and of which classes, comes to the same (`filter_findingsIn`). So a check under a configuration that admits
fewer findings has the report of the other with fewer violations, provided that findings with one signature
are admitted together (`check_restrict`). Rules and full names can be told by signatures, which gives the law
for both parts of a configuration (`check_filtered`).
-/

namespace SignatureLint

/-! ## Configurations with more left out -/

/-- Whether the name of a package starts with one of these. -/
def startsWithOneOf (starts : List String) (package : String) : Bool :=
  starts.any fun start => start.toList.isPrefixOf package.toList

namespace Config

/-- The configuration with more rules off. -/
def disable (rules : List String) (config : Config) : Config :=
  { config with disabledRules := rules.foldl SortedBy.insert config.disabledRules }

/-- The configuration with more packages that are not examined. -/
def ignore (starts : List String) (config : Config) : Config :=
  { config with ignoredPackages := config.ignoredPackages ++ starts }

variable (config : Config)

theorem enables_disable (rules : List String) (rule : String) :
    (config.disable rules).enables rule = (config.enables rule && rule ∉ rules) := by
  rw [Bool.eq_iff_iff, enables, enables, disable]
  simp only [Bool.not_eq_true', Bool.and_eq_true, decide_eq_true_eq, Bool.eq_false_iff, ne_eq,
    WordSet.has_foldl_insert, not_or]
  exact and_comm

theorem ignores_ignore (starts : List String) (package : String) :
    (config.ignore starts).ignores package = (config.ignores package || startsWithOneOf starts package) :=
  List.any_append

/-- Whether a finding can be recorded. -/
def admits (f : Finding) : Bool := config.enables f.rule && !config.ignores f.subject.package

end Config

/-! ## Findings -/

/-- What all rules find in a class. -/
def allFindings (v : ClassView) : List Finding := allRules.flatMap (·.check v)

theorem subject_of_mem_allFindings {v : ClassView} {f : Finding} (mem : f ∈ allFindings v) : f.subject = v.own := by
  obtain ⟨r, listed, found⟩ := List.mem_flatMap.mp mem
  exact (foundBy_of_mem_check listed found).subject

/-- Items that give nothing can be passed over. -/
theorem flatMap_filter_of_eq_nil {α β : Type} {items : List α} {keep : α → Bool} {give : α → List β}
    (nothing : ∀ a ∈ items, keep a = false → give a = []) : (items.filter keep).flatMap give = items.flatMap give := by
  induction items with
  | nil => rfl
  | cons a items ih =>
    have ih := ih fun b mem => nothing b (List.mem_cons_of_mem a mem)
    rw [List.filter_cons, List.flatMap_cons]
    cases kept : keep a with
    | true => rw [if_pos rfl, List.flatMap_cons, ih]
    | false => rw [if_neg Bool.false_ne_true, ih, nothing a List.mem_cons_self kept, List.nil_append]

/-- A rule that is off finds nothing that can be recorded, so it makes no difference whether it is asked. -/
theorem filter_enabledRules (config : Config) (v : ClassView) :
    ((enabledRules config).flatMap (·.check v)).filter (fun f => config.enables f.rule) =
      (allFindings v).filter fun f => config.enables f.rule := by
  rw [enabledRules, allFindings, List.filter_flatMap, List.filter_flatMap]
  apply flatMap_filter_of_eq_nil
  intro r listed off
  apply List.filter_eq_nil_iff.mpr
  intro f mem on
  have isOn : r.isEnabled config = true := List.any_eq_true.mpr ⟨f.rule, (foundBy_of_mem_check listed mem).rule, on⟩
  rw [isOn] at off
  cases off

/-- What can be recorded of a class is what the configuration admits of all that the rules find. -/
theorem filter_findingsIn (config : Config) (v : ClassView) :
    (findingsIn config v).filter (fun f => config.enables f.rule) = (allFindings v).filter config.admits := by
  have admits : (allFindings v).filter config.admits =
      (allFindings v).filter fun f => config.enables f.rule && !config.ignores v.own.package := by
    apply List.filter_congr
    intro f mem
    rw [Config.admits, subject_of_mem_allFindings mem]
  rw [findingsIn, admits]
  cases config.ignores v.own.package with
  | true => simp
  | false =>
    rw [if_neg Bool.false_ne_true, filter_enabledRules]
    simp

/-- What is recorded on a walk, told without asking which rules are on. -/
theorem findingsOn_eq (config : Config) (w : Walk) :
    findingsOn config w = Findings.empty.recordAll {} ((w.views.flatMap allFindings).filter config.admits) := by
  rw [findingsOn, Findings.recordAll_eq_filter, List.filter_flatMap, List.filter_flatMap]
  simp only [filter_findingsIn]

/-! ## Examinations under two configurations -/

section

variable {config config' : Config} {keep : Violation → Bool} {views : List ClassView}

/-- On these classes, the second configuration admits just what the first admits and `keep` keeps; and of
violations with one signature all are kept or none. -/
structure Narrows (config config' : Config) (keep : Violation → Bool) (views : List ClassView) : Prop where
  admits : ∀ f ∈ views.flatMap allFindings, config'.admits f = (config.admits f && keep f.violation)
  told : Report.ToldBySignature keep ((views.flatMap allFindings).map Finding.violation)

theorem Narrows.mono {more : List ClassView} (narrows : Narrows config config' keep more) (subset : views ⊆ more) :
    Narrows config config' keep views where
  admits f mem := by
    obtain ⟨v, memV, found⟩ := List.mem_flatMap.mp mem
    exact narrows.admits f (List.mem_flatMap.mpr ⟨v, subset memV, found⟩)
  told := by
    apply narrows.told.mono
    intro violation mem
    obtain ⟨f, memF, rfl⟩ := List.mem_map.mp mem
    obtain ⟨v, memV, found⟩ := List.mem_flatMap.mp memF
    exact List.mem_map_of_mem (List.mem_flatMap.mpr ⟨v, subset memV, found⟩)

/-- What is recorded under the second is what `keep` keeps of what is recorded under the first. -/
theorem findingsOn_of_narrows {w : Walk} (narrows : Narrows config config' keep w.views) :
    (findingsOn config' w).violations = (findingsOn config w).violations.filter keep := by
  have admits : (w.views.flatMap allFindings).filter config'.admits =
      ((w.views.flatMap allFindings).filter config.admits).filter fun f => keep f.violation := by
    rw [List.filter_filter]
    apply List.filter_congr
    intro f mem
    rw [narrows.admits f mem, Bool.and_comm]
  have told : Report.ToldBySignature keep
      (Findings.empty.violations ++
        ((w.views.flatMap allFindings).filter config.admits).map Finding.violation) :=
    narrows.told.mono (List.map_subset _ (List.filter_subset_self _))
  rw [findingsOn_eq, findingsOn_eq, admits]
  exact (Findings.filter_recordAll told).symm

variable {current : Dump} {base : Option Dump} {known : List ClassName}

/-- What an examination reports is found by the rules in the classes that it sees. -/
theorem violations_examine_subset (subset : (examinedWalk current base known).views ⊆ views) :
    (examine config current base known).violations ⊆ (views.flatMap allFindings).map Finding.violation := by
  intro violation mem
  rw [mem_violations_examine, findingsOn_eq] at mem
  rcases Findings.mem_recordAll mem with unlisted | ⟨f, memF, -, rfl⟩
  · cases unlisted
  · obtain ⟨v, memV, found⟩ := List.mem_flatMap.mp (List.mem_filter.mp memF).1
    exact List.mem_map_of_mem (List.mem_flatMap.mpr ⟨v, subset memV, found⟩)

/-- Two configurations differ in what fails alone. -/
theorem examine_eq (config config' : Config) :
    examine config current base known =
      { examine config' current base known with failures := (examine config current base known).failures } := by
  unfold examine
  rfl

/-- An examination under the second configuration has the report under the first, restricted. -/
theorem examine_of_narrows (narrows : Narrows config config' keep (examinedWalk current base known).views) :
    examine config' current base known = (examine config current base known).restrict keep := by
  have failures : (examine config' current base known).failures =
      ((examine config current base known).restrict keep).failures := by
    have recorded : findingsOn config' (examinedWalk current base known) =
        ⟨(findingsOn config (examinedWalk current base known)).violations.filter keep⟩ := by
      rw [← findingsOn_of_narrows narrows]
    rw [failures_examine, recorded, Findings.failures_report_filter]
    exact Report.failures_restrict_congr failures_examine.symm
  rw [examine_eq config' config, failures]
  rfl

end

/-! ## Checks under two configurations -/

/-- The classes that a check sees: those of the current dump, and of the previous one if there is one. -/
def Dumps.views (dumps : Dumps) : List ClassView :=
  let current := examinedWalk dumps.current dumps.baseCurrent []
  current.views ++ dumps.previous.toList.flatMap fun previous =>
    (examinedWalk previous dumps.basePrevious current.classesWithBase).views

section

variable {dumps : Dumps} {previous : Dump}

theorem currentViews_subset (dumps : Dumps) :
    (examinedWalk dumps.current dumps.baseCurrent []).views ⊆ dumps.views := List.subset_append_left _ _

theorem earlierViews_subset (given : dumps.previous = some previous) :
    (examinedWalk previous dumps.basePrevious
      (examinedWalk dumps.current dumps.baseCurrent []).classesWithBase).views ⊆ dumps.views := by
  intro v mem
  rw [Dumps.views, given]
  exact List.mem_append_right _ (List.mem_flatMap.mpr ⟨previous, List.mem_singleton.mpr rfl, mem⟩)

/-- **A check under a configuration that admits less** has the report of the other, restricted. -/
theorem check_restrict {config config' : Config} {keep : Violation → Bool}
    (narrows : Narrows config config' keep dumps.views) :
    check config' dumps = (check config dumps).restrict keep := by
  have current : currentReport config' dumps = (currentReport config dumps).restrict keep :=
    examine_of_narrows (narrows.mono (currentViews_subset dumps))
  cases given : dumps.previous with
  | none =>
    have alone (config : Config) : check config dumps = currentReport config dumps := by
      rw [check, given]
      rfl
    rw [alone, alone, current]
  | some previous =>
    have earlier : earlierReport config' dumps previous = (earlierReport config dumps previous).restrict keep :=
      examine_of_narrows (narrows.mono (earlierViews_subset given))
    have told : Report.ToldBySignature keep
        ((currentReport config dumps).violations ++ (earlierReport config dumps previous).violations) :=
      narrows.told.mono (List.append_subset.mpr
        ⟨violations_examine_subset (currentViews_subset dumps), violations_examine_subset (earlierViews_subset given)⟩)
    rw [check_of_previous given, check_of_previous given, current, earlier, Report.without_restrict told]
    rfl

end

theorem listed_check (config : Config) (dumps : Dumps) : (check config dumps).Listed := by
  have listed (current : Dump) (base : Option Dump) (known : List ClassName) :
      (examine config current base known).Listed := (Findings.listed_report _).congr failures_examine
  cases given : dumps.previous with
  | none =>
    rw [check, given]
    exact listed _ _ _
  | some previous =>
    rw [check_of_previous given]
    exact (listed _ _ _).restrict.congr Report.failures_without

/-! ## The classes of a check -/

/-- All classes that the dumps of a check declare. -/
def Dumps.classes (dumps : Dumps) : List Class :=
  (dumps.current :: (dumps.baseCurrent.toList ++ dumps.previous.toList ++ dumps.basePrevious.toList)).flatMap
    fun d => d.contents.classes

theorem own_mem_of_mem_views {current : Dump} {base : Option Dump} {known : List ClassName} {v : ClassView}
    (mem : v ∈ (examinedWalk current base known).views) :
    ∃ d ∈ current :: base.toList, v.own ∈ d.contents.classes := by
  obtain ⟨visit, memVisit, rfl⟩ := List.mem_map.mp mem
  rw [examinedWalk, Walk.visits_eq_listWalk] at memVisit
  rcases own_mem_of_mem_listWalk memVisit with inCurrent | inBase
  · exact ⟨current, List.mem_cons_self, inCurrent⟩
  · cases base with
    | none => cases inBase
    | some base => exact ⟨base, List.mem_cons_of_mem _ (List.mem_singleton.mpr rfl), inBase⟩

/-- Every class in view is one of the dumps. -/
theorem own_mem_classes {dumps : Dumps} {v : ClassView} (mem : v ∈ dumps.views) : v.own ∈ dumps.classes := by
  rcases List.mem_append.mp mem with inCurrent | inEarlier
  · obtain ⟨d, memD, own⟩ := own_mem_of_mem_views inCurrent
    refine List.mem_flatMap.mpr ⟨d, ?_, own⟩
    simp only [List.mem_cons, List.mem_append] at memD ⊢
    rcases memD with rfl | inBase
    · exact .inl rfl
    · exact .inr (.inl (.inl inBase))
  · obtain ⟨previous, given, seen⟩ := List.mem_flatMap.mp inEarlier
    obtain ⟨d, memD, own⟩ := own_mem_of_mem_views seen
    refine List.mem_flatMap.mpr ⟨d, ?_, own⟩
    simp only [List.mem_cons, List.mem_append] at memD ⊢
    rcases memD with rfl | inBase
    · exact .inr (.inl (.inr given))
    · exact .inr (.inr inBase)

theorem isSpelled_of_mem_classes {dumps : Dumps} {c : Class} (mem : c ∈ dumps.classes) :
    Token.IsSpelled c.fullname := by
  obtain ⟨d, -, declared⟩ := List.mem_flatMap.mp mem
  exact isSpelled_of_mem_contents declared

/-- A finding in a class in view, and the class. -/
theorem exists_of_mem_findings {views : List ClassView} {f : Finding} (mem : f ∈ views.flatMap allFindings) :
    ∃ v ∈ views, ∃ r ∈ allRules, f.FoundBy r v := by
  obtain ⟨v, memV, found⟩ := List.mem_flatMap.mp mem
  obtain ⟨r, listed, here⟩ := List.mem_flatMap.mp found
  exact ⟨v, memV, r, listed, foundBy_of_mem_check listed here⟩

/-! ## Rules off, packages left out -/

/-- With rules off, what these rules find is not admitted, and signatures tell rules apart. -/
theorem narrows_disable (config : Config) (rules : List String) (views : List ClassView) :
    Narrows config (config.disable rules) (fun v => v.rule ∉ rules) views where
  admits f _ := by
    rw [Config.admits, Config.admits, Config.enables_disable, Bool.and_assoc, Bool.and_assoc, Bool.and_comm (decide _)]
    rfl
  told := by
    intro violation mem violation' mem' same
    obtain ⟨f, memF, rfl⟩ := List.mem_map.mp mem
    obtain ⟨g, memG, rfl⟩ := List.mem_map.mp mem'
    obtain ⟨v, -, r, listed, found⟩ := exists_of_mem_findings memF
    obtain ⟨w, -, s, listed', found'⟩ := exists_of_mem_findings memG
    have rule : f.violation.rule = g.violation.rule := rule_eq_of_signature listed listed' found found' same
    exact congrArg (fun rule => decide (rule ∉ rules)) rule

/-- Whether a violation is on a class, of those of the dumps, in a package that starts with one of these. -/
def Dumps.putsIn (dumps : Dumps) (starts : List String) (v : Violation) : Bool :=
  dumps.classes.any fun c => c.fullname = v.className && startsWithOneOf starts c.package

/-- No full name is that of classes in two packages. -/
def Dumps.OnePackageEach (dumps : Dumps) : Prop :=
  ∀ c ∈ dumps.classes, ∀ d ∈ dumps.classes, c.fullname = d.fullname → c.package = d.package

instance (dumps : Dumps) : Decidable dumps.OnePackageEach :=
  inferInstanceAs
    (Decidable (∀ c ∈ dumps.classes, ∀ d ∈ dumps.classes, c.fullname = d.fullname → c.package = d.package))

theorem Dumps.OnePackageEach.putsIn_eq {dumps : Dumps} (one : dumps.OnePackageEach) {f : Finding}
    (mem : f.subject ∈ dumps.classes) (starts : List String) :
    dumps.putsIn starts f.violation = startsWithOneOf starts f.subject.package := by
  rw [Bool.eq_iff_iff, Dumps.putsIn, List.any_eq_true]
  constructor
  · rintro ⟨c, memC, both⟩
    obtain ⟨same, put⟩ := Bool.and_eq_true_iff.mp both
    rw [one f.subject mem c memC (of_decide_eq_true same).symm]
    exact put
  · intro put
    exact ⟨f.subject, mem, Bool.and_eq_true_iff.mpr ⟨decide_eq_true rfl, put⟩⟩

/-- With packages left out, what is found in their classes is not admitted, and signatures tell full names
apart, so packages as well. -/
theorem narrows_ignore (config : Config) {dumps : Dumps} (one : dumps.OnePackageEach) (starts : List String) :
    Narrows config (config.ignore starts) (fun v => !dumps.putsIn starts v) dumps.views where
  admits f mem := by
    obtain ⟨v, memV, r, listed, found⟩ := exists_of_mem_findings mem
    have declared : f.subject ∈ dumps.classes := found.subject ▸ own_mem_classes memV
    rw [one.putsIn_eq declared, Config.admits, Config.admits, Config.ignores_ignore, Bool.not_or, Bool.and_assoc]
    rfl
  told := by
    intro violation mem violation' mem' same
    obtain ⟨f, memF, rfl⟩ := List.mem_map.mp mem
    obtain ⟨g, memG, rfl⟩ := List.mem_map.mp mem'
    obtain ⟨v, memV, r, -, found⟩ := exists_of_mem_findings memF
    obtain ⟨w, memW, s, -, found'⟩ := exists_of_mem_findings memG
    have declared : f.subject ∈ dumps.classes := found.subject ▸ own_mem_classes memV
    have declared' : g.subject ∈ dumps.classes := found'.subject ▸ own_mem_classes memW
    have className : f.violation.className = g.violation.className :=
      className_eq_of_signature (isSpelled_of_mem_classes declared) (isSpelled_of_mem_classes declared') same
    simp only [Dumps.putsIn, className]

/-- **A configuration filters what is reported, and does nothing else.** With more rules off, the report lacks
just these rules. With more packages left out, it lacks just the violations on classes of these packages, if no
full name is that of classes in two packages. -/
theorem check_filtered (config : Config) (dumps : Dumps) :
    (∀ rules, check (config.disable rules) dumps = (check config dumps).withoutRules rules) ∧
      (dumps.OnePackageEach → ∀ starts,
        check (config.ignore starts) dumps = (check config dumps).restrict fun v => !dumps.putsIn starts v) := by
  constructor
  · intro rules
    rw [(listed_check config dumps).withoutRules_eq_restrict]
    exact check_restrict (narrows_disable config rules dumps.views)
  · intro one starts
    exact check_restrict (narrows_ignore config one starts)

/-- Two packages with a misnamed class each, where there was nothing before. -/
def twoPackages : Dumps where
  current := ⟨"current.txt", "package p \x7b\n  class AObserver \x7b\n  \x7d\n" ++
    "package q \x7b\n  class BObserver \x7b\n  \x7d\n"⟩
  baseCurrent := none
  previous := some ⟨"previous.txt", ""⟩
  basePrevious := none

/-- Of two violations in two packages, one is left if a package is left out, and none if the rule is off. -/
theorem check_filtered_twoPackages :
    twoPackages.OnePackageEach ∧
      (check {} twoPackages).violations.map Violation.className = ["p.AObserver", "q.BObserver"] ∧
      (check (Config.ignore ["p"] {}) twoPackages =
        (check {} twoPackages).restrict fun v => !twoPackages.putsIn ["p"] v) ∧
      (check (Config.ignore ["p"] {}) twoPackages).violations.map Violation.className = ["q.BObserver"] ∧
      (check (Config.disable ["L1"] {}) twoPackages = (check {} twoPackages).withoutRules ["L1"]) ∧
      (check (Config.disable ["L1"] {}) twoPackages).isClean = true := by
  have one : twoPackages.OnePackageEach := by decide +kernel
  exact ⟨one, by decide +kernel, (check_filtered {} twoPackages).2 one ["p"], by decide +kernel,
    (check_filtered {} twoPackages).1 ["L1"], by decide +kernel⟩

end SignatureLint
