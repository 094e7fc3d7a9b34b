/-!
# Tables of texts

A `Table` holds texts in increasing order, each once, and is made for look-ups: `Table.has` halves the
part of the table where the text can stand until it meets the text or nothing is left. A look-up finds
just the texts that the table was made of (`has_iff`).
-/

namespace SignatureLint

/-- Whether each text is less than the next. -/
def climbs : List String → Bool
  | a :: b :: rest => decide (a < b) && climbs (b :: rest)
  | _ => true

theorem pairwise_of_climbs {texts : List String} (climb : climbs texts = true) : texts.Pairwise (· < ·) := by
  fun_induction climbs texts with
  | case1 a b rest ih =>
    simp only [Bool.and_eq_true, decide_eq_true_eq] at climb
    have later := ih climb.2
    refine List.pairwise_cons.mpr ⟨fun x mem => ?_, later⟩
    rcases List.mem_cons.mp mem with rfl | mem
    · exact climb.1
    · exact String.lt_trans climb.1 ((List.pairwise_cons.mp later).1 x mem)
  | case2 texts short =>
    match texts with
    | [] => exact .nil
    | [a] => exact List.pairwise_singleton _ a
    | a :: b :: rest => exact (short a b rest rfl).elim

/-- Texts in increasing order. -/
structure Table where
  texts : Array String
  increasing : texts.toList.Pairwise (· < ·)

namespace Table

/-- The table of a list that is in increasing order already. -/
def ofList (texts : List String) (climb : climbs texts = true) : Table :=
  ⟨texts.toArray, pairwise_of_climbs climb⟩

/-- Whether the text stands at one of the places from `low` on and before `high`. -/
def hasBetween (t : Table) (text : String) (low high : Nat) (inside : high ≤ t.texts.size) : Bool :=
  if room : low < high then
    let middle := low + (high - low) / 2
    have lower : middle < high := by omega
    if text < t.texts[middle] then t.hasBetween text low middle (by omega)
    else if text = t.texts[middle] then true
    else t.hasBetween text (middle + 1) high inside
  else false
termination_by high - low

/-- Whether the text stands in the table. -/
def has (t : Table) (text : String) : Bool := t.hasBetween text 0 t.texts.size (Nat.le_refl _)

theorem get_lt_get {t : Table} {i j : Nat} (before : i < j) (inside : j < t.texts.size) :
    t.texts[i] < t.texts[j] := List.pairwise_iff_getElem.mp t.increasing i j (by simp; omega) (by simpa) before

theorem hasBetween_iff {t : Table} {text : String} {low high : Nat} {inside : high ≤ t.texts.size} :
    t.hasBetween text low high inside = true ↔
      ∃ (i : Nat) (bound : i < t.texts.size), low ≤ i ∧ i < high ∧ t.texts[i] = text := by
  fun_induction hasBetween t text low high inside with
  | case1 low high inside room middle lower less ih =>
    rw [ih]
    constructor
    · rintro ⟨i, bound, above, below, same⟩
      exact ⟨i, bound, above, by omega, same⟩
    · rintro ⟨i, bound, above, below, same⟩
      refine ⟨i, bound, above, ?_, same⟩
      rcases Nat.lt_trichotomy i middle with smaller | rfl | larger
      · exact smaller
      · exact absurd less (same ▸ String.lt_irrefl _)
      · exact absurd (String.lt_trans less (get_lt_get larger bound)) (same ▸ String.lt_irrefl _)
  | case2 low high inside room middle lower notLess same =>
    exact ⟨fun _ => ⟨middle, by omega, by omega, lower, same.symm⟩, fun _ => rfl⟩
  | case3 low high inside room middle lower notLess differ ih =>
    rw [ih]
    constructor
    · rintro ⟨i, bound, above, below, same⟩
      exact ⟨i, bound, by omega, below, same⟩
    · rintro ⟨i, bound, above, below, same⟩
      refine ⟨i, bound, ?_, below, same⟩
      rcases Nat.lt_trichotomy i middle with smaller | rfl | larger
      · exact absurd (same ▸ get_lt_get smaller (by omega)) notLess
      · exact absurd same.symm differ
      · exact larger
  | case4 low high inside room =>
    constructor
    · intro found
      cases found
    · rintro ⟨i, _, above, below, _⟩
      omega

/-- A look-up finds just the texts of the table. -/
theorem has_iff {t : Table} {text : String} : t.has text = true ↔ text ∈ t.texts.toList := by
  rw [has, hasBetween_iff, List.mem_iff_getElem]
  constructor
  · rintro ⟨i, bound, _, _, same⟩
    exact ⟨i, by simpa using bound, by simpa using same⟩
  · rintro ⟨i, bound, same⟩
    have bound : i < t.texts.size := by simpa using bound
    exact ⟨i, bound, Nat.zero_le i, bound, by simpa using same⟩

theorem has_ofList_iff {texts : List String} {climb : climbs texts = true} {text : String} :
    (ofList texts climb).has text = true ↔ text ∈ texts := by
  rw [has_iff]
  simp [ofList]

end Table

end SignatureLint
