import SignatureLint.Json.Printer

/-!
# How the text of a JSON string is written

What stands between the quotes of a JSON string spells its text character by character (`Json.Spells`). Most
characters stand for themselves. A backslash and a mark stand for the mark or for a control character, and a
backslash, a `u` and four hexadecimal digits stand for the character of that number. What is printed for a text spells
it (`Json.spells_escape`).
-/

namespace SignatureLint.Json

/-- What the marks behind a backslash stand for. -/
def marks : List (Char × Char) :=
  [('"', '"'), ('\\', '\\'), ('/', '/'), ('b', '\x08'), ('f', '\x0c'), ('n', '\n'), ('r', '\r'), ('t', '\t')]

def hexDigits : List Char := "0123456789abcdef".toList

/-- The number that is written in these digits. -/
def hexValue (digits : List Char) : Nat := digits.foldl (fun n digit => 16 * n + hexDigits.idxOf digit) 0

/-- What can be written for one character. -/
inductive SpellsChar : List Char → Char → Prop where
  | plain {c : Char} : c ≠ '"' → c ≠ '\\' → 0x20 ≤ c.toNat → SpellsChar [c] c
  | mark {mark c : Char} : (mark, c) ∈ marks → SpellsChar ['\\', mark] c
  | code {digits : List Char} {c : Char} :
    digits.length = 4 → digits ⊆ hexDigits → hexValue digits = c.toNat → SpellsChar ('\\' :: 'u' :: digits) c

/-- What can be written for a text. -/
inductive Spells : List Char → List Char → Prop where
  | nil : Spells [] []
  | cons {unit written text : List Char} {c : Char} :
    SpellsChar unit c → Spells written text → Spells (unit ++ written) (c :: text)

/-- A control character is written by its mark, or by the four digits of its number. -/
theorem escapeChar_control : ∀ n < 0x20,
    (marks.any fun entry => entry.2 = Char.ofNat n && escapeChar (Char.ofNat n) = ['\\', entry.1]) = true ∨
      escapeChar (Char.ofNat n) = '\\' :: 'u' :: (escapeChar (Char.ofNat n)).drop 2 ∧
        ((escapeChar (Char.ofNat n)).drop 2).length = 4 ∧
        ((escapeChar (Char.ofNat n)).drop 2).all hexDigits.contains = true ∧
        hexValue ((escapeChar (Char.ofNat n)).drop 2) = n := by
  decide +kernel

theorem spellsChar_escapeChar (c : Char) : SpellsChar (escapeChar c) c := by
  by_cases control : c.toNat < 0x20
  · have table := escapeChar_control c.toNat control
    rw [Char.ofNat_toNat] at table
    rcases table with short | ⟨written, length, digits, value⟩
    · obtain ⟨⟨mark, c'⟩, mem, same⟩ := List.any_eq_true.mp short
      obtain ⟨same, written⟩ := Bool.and_eq_true_iff.mp same
      obtain rfl := of_decide_eq_true same
      rw [of_decide_eq_true written]
      exact .mark mem
    · rw [written]
      refine .code length (fun digit mem => ?_) value
      exact List.contains_iff_mem.mp (List.all_eq_true.mp digits digit mem)
  by_cases quote : c = '"'
  · subst quote
    have mem : ('"', '"') ∈ marks := List.mem_cons_self
    exact .mark mem
  by_cases backslash : c = '\\'
  · subst backslash
    have mem : ('\\', '\\') ∈ marks := List.mem_cons_of_mem _ List.mem_cons_self
    exact .mark mem
  have apart {d : Char} (below : d.toNat < 0x20) : c ≠ d := fun same => control (same ▸ below)
  have itself : escapeChar c = [c] := by
    rw [escapeChar, if_neg (by simp [quote, backslash]), if_neg (apart (by decide)), if_neg (apart (by decide)),
      if_neg (apart (by decide)), if_neg (apart (by decide)), if_neg (apart (by decide)), if_neg (by omega),
      if_neg control]
  rw [itself]
  exact .plain quote backslash (Nat.le_of_not_lt control)

/-- **What is printed between the quotes spells the text.** -/
theorem spells_escape (text : List Char) : Spells (text.flatMap escapeChar) text := by
  induction text with
  | nil => exact .nil
  | cons c text ih =>
    rw [List.flatMap_cons]
    exact .cons (spellsChar_escapeChar c) ih

end SignatureLint.Json
