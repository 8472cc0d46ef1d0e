/-
Sets of code points given as closed ranges.

A character property of the Unicode standard is a list of ranges `(first, last)`.  `inRanges` asks
whether a code point lies in one of them.
-/

namespace Sitemap
namespace Text

/-- Whether `n` lies in one of the closed ranges. -/
def inRanges (n : Nat) (ranges : List (Nat × Nat)) : Bool :=
  ranges.any fun r => r.1 ≤ n && n ≤ r.2

theorem inRanges_iff {n : Nat} {ranges : List (Nat × Nat)} :
    inRanges n ranges = true ↔ ∃ r ∈ ranges, r.1 ≤ n ∧ n ≤ r.2 := by
  simp [inRanges]

end Text
end Sitemap
