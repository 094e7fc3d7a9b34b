/-!
# Lists in increasing key order

`SortedBy key` holds items in strictly increasing order of a text key, so each key at most once and
in one order only: two such lists with the same items are equal. It serves as a set of words (the key
is the word), as a map (the key is the first of a pair) and as an index of named things.

**The laws.** `find?_insert` and `find?_insertNew` say which item a key finds after an insertion:
`insert` replaces the item of its key, `insertNew` keeps the one that is there. `mem_insert` says what
an insertion leaves in the list, and `find?_eq_some_iff` that a key finds exactly its item.
-/

namespace SignatureLint

/-- Items in strictly increasing order of their keys. -/
structure SortedBy {α : Type} (key : α → String) where
  /-- The items in order. -/
  items : List α
  increasing : items.Pairwise fun a b => key a < key b
deriving DecidableEq

namespace SortedBy

variable {α : Type} {key : α → String}

/-- No items. -/
def empty : SortedBy key := ⟨[], .nil⟩

instance : Inhabited (SortedBy key) := ⟨empty⟩

/-- The item of a key. -/
def find? (s : SortedBy key) (k : String) : Option α := s.items.find? fun a => key a == k

/-- Whether some item has the key. -/
def has (s : SortedBy key) (k : String) : Bool := s.items.any fun a => key a == k

/-- An item put in its place among items in order, instead of the one with its key. -/
def place (key : α → String) (x : α) : List α → List α
  | [] => [x]
  | a :: as => if key x < key a then x :: a :: as else if key x = key a then x :: as else a :: place key x as

theorem mem_place {x y : α} {as : List α} (increasing : as.Pairwise fun a b => key a < key b) :
    y ∈ place key x as ↔ y = x ∨ (y ∈ as ∧ key y ≠ key x) := by
  induction as with
  | nil => simp [place]
  | cons a as ih =>
    have above : ∀ b ∈ as, key a < key b := (List.pairwise_cons.mp increasing).1
    have ih := ih (List.pairwise_cons.mp increasing).2
    unfold place
    split
    next before =>
      have apart : ∀ b ∈ a :: as, key b ≠ key x := by
        intro b hb same
        rcases List.mem_cons.mp hb with rfl | hb
        · exact String.lt_irrefl _ (same ▸ before)
        · exact String.lt_irrefl _ (String.lt_trans (same ▸ before) (above b hb))
      simp only [List.mem_cons] at apart ⊢
      constructor
      · rintro (h | h)
        · exact .inl h
        · exact .inr ⟨h, apart y h⟩
      · rintro (h | ⟨h, _⟩)
        · exact .inl h
        · exact .inr h
    next notBefore =>
      split
      next same =>
        simp only [List.mem_cons]
        constructor
        · rintro (h | h)
          · exact .inl h
          · exact .inr ⟨.inr h, fun e => String.lt_irrefl (key a) (by
              have := above y h; rw [e, same] at this; exact this)⟩
        · rintro (h | ⟨rfl | h, apart⟩)
          · exact .inl h
          · exact absurd same.symm apart
          · exact .inr h
      next differ =>
        simp only [List.mem_cons, ih]
        constructor
        · rintro (rfl | rfl | ⟨h, apart⟩)
          · exact .inr ⟨.inl rfl, fun e => differ e.symm⟩
          · exact .inl rfl
          · exact .inr ⟨.inr h, apart⟩
        · rintro (rfl | ⟨rfl | h, apart⟩)
          · exact .inr (.inl rfl)
          · exact .inl rfl
          · exact .inr (.inr ⟨h, apart⟩)

theorem place_increasing {x : α} {as : List α} (increasing : as.Pairwise fun a b => key a < key b) :
    (place key x as).Pairwise fun a b => key a < key b := by
  induction as with
  | nil => simp [place]
  | cons a as ih =>
    obtain ⟨above, rest⟩ := List.pairwise_cons.mp increasing
    unfold place
    split
    next before =>
      refine List.pairwise_cons.mpr ⟨fun b hb => ?_, increasing⟩
      rcases List.mem_cons.mp hb with rfl | hb
      · exact before
      · exact String.lt_trans before (above b hb)
    next notBefore =>
      split
      next same => exact List.pairwise_cons.mpr ⟨fun b hb => same ▸ above b hb, rest⟩
      next differ =>
        refine List.pairwise_cons.mpr ⟨fun b hb => ?_, ih rest⟩
        rcases (mem_place rest).mp hb with rfl | ⟨hb, _⟩
        · exact Decidable.byContradiction fun h => differ (String.le_antisymm h notBefore)
        · exact above b hb

/-- The list with `x` in its place, instead of the item that had its key. -/
def insert (s : SortedBy key) (x : α) : SortedBy key := ⟨place key x s.items, place_increasing s.increasing⟩

/-- The list with `x` in its place, unless an item has its key already. -/
def insertNew (s : SortedBy key) (x : α) : SortedBy key := if s.has (key x) then s else s.insert x

/-- The items put in one after the other; of two with one key the later stays. -/
def ofList (xs : List α) : SortedBy key := xs.foldl insert empty

/-- The items put in one after the other; of two with one key the earlier stays. -/
def ofListNew (xs : List α) : SortedBy key := xs.foldl insertNew empty

/-- The items of a class. -/
def filter (keep : α → Bool) (s : SortedBy key) : SortedBy key := ⟨s.items.filter keep, s.increasing.filter keep⟩

theorem mem_insert {s : SortedBy key} {x y : α} :
    y ∈ (s.insert x).items ↔ y = x ∨ (y ∈ s.items ∧ key y ≠ key x) := mem_place s.increasing

theorem eq_of_mem {s : SortedBy key} {x y : α} (hx : x ∈ s.items) (hy : y ∈ s.items) (same : key x = key y) :
    x = y := by
  obtain ⟨as, increasing⟩ := s
  induction as with
  | nil => cases hx
  | cons a as ih =>
    obtain ⟨above, rest⟩ := List.pairwise_cons.mp increasing
    rcases List.mem_cons.mp hx with hx | hx <;> rcases List.mem_cons.mp hy with hy | hy
    · rw [hx, hy]
    · exact absurd (above y hy) (by rw [← hx, same]; exact String.lt_irrefl _)
    · exact absurd (above x hx) (by rw [← hy, same]; exact String.lt_irrefl _)
    · exact ih rest hx hy

theorem nodup (s : SortedBy key) : s.items.Nodup :=
  s.increasing.imp (S := (· ≠ ·)) fun before same => String.lt_irrefl _ (same ▸ before)

/-- The order leaves no choice: the items determine the list. -/
theorem ext_items {s t : SortedBy key} (same : ∀ x, x ∈ s.items ↔ x ∈ t.items) : s = t := by
  have perm : s.items.Perm t.items := (List.perm_ext_iff_of_nodup s.nodup t.nodup).mpr same
  have equal := perm.eq_of_pairwise (fun _ _ _ _ h h' => absurd h' (String.lt_asymm h)) s.increasing t.increasing
  cases s
  cases t
  simpa using equal

theorem find?_eq_some_iff {s : SortedBy key} {k : String} {x : α} :
    s.find? k = some x ↔ x ∈ s.items ∧ key x = k := by
  constructor
  · intro found
    exact ⟨List.mem_of_find?_eq_some found, by simpa using List.find?_some found⟩
  · rintro ⟨mem, rfl⟩
    cases found : s.find? (key x) with
    | none =>
      have := List.find?_eq_none.mp found x mem
      simp at this
    | some y =>
      have same : key y = key x := by simpa using List.find?_some found
      rw [eq_of_mem (List.mem_of_find?_eq_some found) mem same]

theorem find?_eq_none_iff {s : SortedBy key} {k : String} : s.find? k = none ↔ ∀ x ∈ s.items, key x ≠ k := by
  simp [find?]

theorem has_iff {s : SortedBy key} {k : String} : s.has k = true ↔ ∃ x ∈ s.items, key x = k := by simp [has]

theorem find?_insert {s : SortedBy key} {x : α} {k : String} :
    (s.insert x).find? k = if k = key x then some x else s.find? k := by
  split
  next same => exact find?_eq_some_iff.mpr ⟨mem_insert.mpr (.inl rfl), same.symm⟩
  next differ =>
    refine Option.ext fun y => ?_
    rw [find?_eq_some_iff, find?_eq_some_iff, mem_insert]
    constructor
    · rintro ⟨rfl | ⟨mem, _⟩, rfl⟩
      · exact absurd rfl differ
      · exact ⟨mem, rfl⟩
    · rintro ⟨mem, rfl⟩
      exact ⟨.inr ⟨mem, differ⟩, rfl⟩

theorem find?_insertNew {s : SortedBy key} {x : α} {k : String} :
    (s.insertNew x).find? k = (s.find? k).or (if k = key x then some x else none) := by
  unfold insertNew
  split
  next had =>
    obtain ⟨y, mem, same⟩ := has_iff.mp had
    split
    next eq => rw [eq, find?_eq_some_iff.mpr ⟨mem, same⟩]; rfl
    next => simp
  next lacked =>
    rw [find?_insert]
    split
    next eq =>
      have : s.find? k = none := find?_eq_none_iff.mpr fun y mem same => lacked (has_iff.mpr ⟨y, mem, same.trans eq⟩)
      rw [this]; rfl
    next => simp

end SortedBy

/-- A set of words in increasing order. -/
abbrev WordSet := SortedBy (id : String → String)

namespace WordSet

variable {s t : WordSet} {word x : String} {words : List String}

theorem has_iff_mem : SortedBy.has s word = true ↔ word ∈ s.items := by simp [SortedBy.has]

/-- Two sets that have the same words are one. -/
theorem ext_has (same : ∀ word, SortedBy.has s word = true ↔ SortedBy.has t word = true) : s = t := by
  apply SortedBy.ext_items
  intro word
  rw [← has_iff_mem, ← has_iff_mem, same]

theorem has_insert : SortedBy.has (s.insert x) word = true ↔ word = x ∨ SortedBy.has s word = true := by
  rw [has_iff_mem, has_iff_mem, SortedBy.mem_insert, id, id]
  constructor
  · rintro (same | ⟨mem, _⟩)
    · exact .inl same
    · exact .inr mem
  · rintro (same | mem)
    · exact .inl same
    · by_cases same : word = x
      · exact .inl same
      · exact .inr ⟨mem, same⟩

theorem has_foldl_insert :
    SortedBy.has (words.foldl SortedBy.insert s) word = true ↔ word ∈ words ∨ SortedBy.has s word = true := by
  induction words generalizing s with
  | nil => simp
  | cons x words ih => rw [List.foldl_cons, ih, has_insert, List.mem_cons, or_assoc, or_left_comm]

theorem has_ofList : SortedBy.has (SortedBy.ofList words : WordSet) word = true ↔ word ∈ words := by
  rw [SortedBy.ofList, has_foldl_insert]
  simp [SortedBy.has, SortedBy.empty]

end WordSet

end SignatureLint
