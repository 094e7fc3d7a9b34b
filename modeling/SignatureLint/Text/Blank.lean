import SignatureLint.Text.Ranges

/-!
# White space

A blank is a character with the Unicode property White_Space. `trim` and `trimEnd` cut blanks off the
ends of a text; `trimBy` and `trimEndBy` do it for any class of characters. Nothing inside a text is
touched: what is cut off is a run of blanks (`trimEndBy_append_takeWhile`), and what stands before
characters that stay is left as it is (`trimEndBy_append`).
-/

namespace SignatureLint.Text

/-- The characters with the property White_Space. -/
def blankRanges : List (Nat × Nat) := [
  (0x9, 0xD), (0x20, 0x20), (0x85, 0x85), (0xA0, 0xA0), (0x1680, 0x1680), (0x2000, 0x200A),
  (0x2028, 0x2029), (0x202F, 0x202F), (0x205F, 0x205F), (0x3000, 0x3000)]

/-- Whether `c` is white space. -/
def isBlank (c : Char) : Bool := inRanges blankRanges c

/-- `text` without the characters of the class that end it. -/
def trimEndBy (cut : Char → Bool) (text : List Char) : List Char := (text.reverse.dropWhile cut).reverse

/-- `text` without the characters of the class that start or end it. -/
def trimBy (cut : Char → Bool) (text : List Char) : List Char := (trimEndBy cut text).dropWhile cut

/-- `text` without the blanks that end it. -/
def trimEnd (text : List Char) : List Char := trimEndBy isBlank text

/-- `text` without the blanks that start or end it. -/
def trim (text : List Char) : List Char := trimBy isBlank text

theorem trimEndBy_append_takeWhile (cut : Char → Bool) (text : List Char) :
    trimEndBy cut text ++ (text.reverse.takeWhile cut).reverse = text := by
  rw [trimEndBy, ← List.reverse_append, List.takeWhile_append_dropWhile, List.reverse_reverse]

/-- The second text is cut, and the first as well if nothing is left of the second. -/
theorem trimEndBy_append (cut : Char → Bool) (front back : List Char) :
    trimEndBy cut (front ++ back) =
      if trimEndBy cut back = [] then trimEndBy cut front else front ++ trimEndBy cut back := by
  simp only [trimEndBy, List.reverse_append, List.dropWhile_append, List.isEmpty_iff, List.reverse_eq_nil_iff]
  split
  · rfl
  · rw [List.reverse_append, List.reverse_reverse]

end SignatureLint.Text
