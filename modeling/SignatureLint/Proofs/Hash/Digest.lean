import Mathlib.Algebra.Ring.Nat
import SignatureLint.Hash.Sha256

/-!
# Digests as texts

A digest is written with eight digits for each word of the hash. Nothing is lost in the writing
(`hash_eq_of_hexDigest`), so two texts have one digest just if their bytes have one hash: if they are equal, or a
collision of the hash (`hexDigest_eq_iff`). That collisions exist is certain, since there are more messages than
hashes; no statement here is about finding one.
-/

namespace SignatureLint.Sha256

/-! ## Bytes of texts -/

theorem toList_loop (bytes : ByteArray) (i : Nat) (before : List UInt8) :
    ByteArray.toList.loop bytes i before = before.reverse ++ bytes.data.toList.drop i := by
  fun_induction ByteArray.toList.loop bytes i before with
  | case1 i before inside ih =>
    have here : i < bytes.data.toList.length := inside
    have byte : bytes.get! i = bytes.data.toList[i] := getElem!_pos bytes.data i inside
    rw [ih, List.reverse_cons, byte, List.append_assoc, List.singleton_append, List.getElem_cons_drop]
  | case2 i before outside =>
    have past : bytes.data.toList.length ≤ i := Nat.le_of_not_lt outside
    rw [List.drop_of_length_le past, List.append_nil]

/-- The bytes of a text tell the text. -/
theorem utf8_injective {text text' : String} (same : text.toUTF8.toList = text'.toUTF8.toList) : text = text' := by
  rw [ByteArray.toList, ByteArray.toList, toList_loop, toList_loop] at same
  apply String.toByteArray_inj.mp
  exact ByteArray.ext (Array.toList_inj.mp same)

/-! ## Digits of words -/

theorem digitChar_injective {m n : Nat} (hm : m < 16) (hn : n < 16) (same : m.digitChar = n.digitChar) : m = n := by
  have checked : ∀ a b : Fin 16, a.val.digitChar = b.val.digitChar → a.val = b.val := by decide
  exact checked ⟨m, hm⟩ ⟨n, hn⟩ same

/-- A number below a power of sixteen is told by as many digits. -/
theorem eq_of_digits {n x y : Nat} (hx : x < 16 ^ n) (hy : y < 16 ^ n)
    (digits : ∀ i < n, x / 16 ^ i % 16 = y / 16 ^ i % 16) : x = y := by
  induction n generalizing x y with
  | zero => rw [Nat.lt_one_iff.mp hx, Nat.lt_one_iff.mp hy]
  | succ n ih =>
    have rest : x / 16 = y / 16 := by
      apply ih
      · exact Nat.div_lt_of_lt_mul (Nat.pow_succ' ▸ hx)
      · exact Nat.div_lt_of_lt_mul (Nat.pow_succ' ▸ hy)
      · intro i small
        rw [Nat.div_div_eq_div_mul, Nat.div_div_eq_div_mul, ← Nat.pow_succ']
        exact digits (i + 1) (Nat.succ_lt_succ small)
    have last : x % 16 = y % 16 := by simpa using digits 0 (Nat.succ_pos n)
    omega

theorem length_hexOfWord (word : UInt32) : (hexOfWord word).length = 8 := rfl

theorem hexOfWord_injective {word word' : UInt32} (same : hexOfWord word = hexOfWord word') : word = word' := by
  apply UInt32.toNat_inj.mp
  refine eq_of_digits (n := 8) word.toNat_lt word'.toNat_lt ?_
  intro i small
  have written : ∀ i < 8, 4 * i ∈ [28, 24, 20, 16, 12, 8, 4, 0] := by decide
  have digits := List.map_inj_left.mp same (4 * i) (written i small)
  have equal := digitChar_injective (Nat.mod_lt _ (by decide)) (Nat.mod_lt _ (by decide)) digits
  rwa [Nat.shiftRight_eq_div_pow, Nat.shiftRight_eq_div_pow, Nat.pow_mul] at equal

/-- Words are told by their digits, since all have as many. -/
theorem flatMap_hexOfWord_injective {words words' : List UInt32}
    (same : words.flatMap hexOfWord = words'.flatMap hexOfWord) : words = words' := by
  induction words generalizing words' with
  | nil =>
    cases words' with
    | nil => rfl
    | cons word' words' => cases same
  | cons word words ih =>
    cases words' with
    | nil => cases same
    | cons word' words' =>
      rw [List.flatMap_cons, List.flatMap_cons] at same
      obtain ⟨here, later⟩ := List.append_inj same (by rw [length_hexOfWord, length_hexOfWord])
      rw [hexOfWord_injective here, ih later]

/-! ## Digests -/

/-- Two messages that have one hash. -/
structure Collide (message message' : List UInt8) : Prop where
  differ : message ≠ message'
  hash : hash message = hash message'

theorem hash_eq_of_hexDigest {text text' : String} (same : hexDigest text = hexDigest text') :
    hash text.toUTF8.toList = hash text'.toUTF8.toList :=
  flatMap_hexOfWord_injective (String.ofList_inj.mp same)

/-- **Two texts have one digest just if they are equal or collide.** -/
theorem hexDigest_eq_iff {text text' : String} :
    hexDigest text = hexDigest text' ↔ text = text' ∨ Collide text.toUTF8.toList text'.toUTF8.toList := by
  constructor
  · intro same
    by_cases equal : text.toUTF8.toList = text'.toUTF8.toList
    · exact .inl (utf8_injective equal)
    · exact .inr ⟨equal, hash_eq_of_hexDigest same⟩
  · rintro (rfl | collide)
    · rfl
    · rw [hexDigest, hexDigest, collide.hash]

end SignatureLint.Sha256
