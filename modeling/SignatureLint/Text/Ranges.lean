/-!
# Ranges of characters

A property of characters that no formula gives is held as a list of inclusive ranges of code points.
Membership is the only operation. The tables built on it (`Text.Alphanumeric`, `Text.Printable`,
`Text.Grapheme`) hold the code points from 0x80 on; each module settles ASCII by a rule of its own.
-/

namespace SignatureLint.Text

/-- Whether the code point of `c` lies in one of the inclusive ranges. -/
def inRanges (ranges : List (Nat × Nat)) (c : Char) : Bool :=
  ranges.any fun range => range.1 ≤ c.toNat && c.toNat ≤ range.2

theorem inRanges_iff {ranges : List (Nat × Nat)} {c : Char} :
    inRanges ranges c = true ↔ ∃ range ∈ ranges, range.1 ≤ c.toNat ∧ c.toNat ≤ range.2 := by
  simp [inRanges]

end SignatureLint.Text
