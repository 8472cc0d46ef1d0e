/-
Characters that differ in case alone.

`variants` lists the code points that count as the same as a character: those with the same
lower-case form, and those whose lower-case forms are in one group with it.
-/
import Sitemap.Text.Lowercase

namespace Sitemap
namespace Text

/-- Lower-case code points that count as the same, such as the two forms of sigma. -/
def caseGroups : List (List Nat) :=
  [[0x69, 0x131], [0x73, 0x17F], [0xB5, 0x3BC], [0x345, 0x3B9, 0x1FBE], [0x390, 0x1FD3],
    [0x3B0, 0x1FE3], [0x3B2, 0x3D0], [0x3B5, 0x3F5], [0x3B8, 0x3D1], [0x3BA, 0x3F0],
    [0x3C0, 0x3D6], [0x3C1, 0x3F1], [0x3C2, 0x3C3], [0x3C6, 0x3D5], [0x432, 0x1C80],
    [0x434, 0x1C81], [0x43E, 0x1C82], [0x441, 0x1C83], [0x442, 0x1C84, 0x1C85], [0x44A, 0x1C86],
    [0x463, 0x1C87], [0x1C88, 0xA64B], [0x1E61, 0x1E9B], [0xFB05, 0xFB06]]

/-- The first character of the lower-case form of a character. -/
def lowered (c : Char) : Char := (lowerChar c).headD c

/-- The code points that have a code point as the first of their lower-case form. -/
def capitals (n : Nat) : List Nat :=
  (if 0x61 ≤ n && n ≤ 0x7A then [n - 0x20] else []) ++ (if n = 0x69 then [0x130] else [])
    ++ lowercaseRuns.filterMap fun r =>
      let m := ((n : Int) - r.offset).toNat
      if r.holds m then some m else none

/-- The code points that differ from a character in case alone. -/
def variants (c : Char) : List Nat :=
  let n := (lowered c).toNat
  let group := (caseGroups.find? (·.contains n)).getD [n]
  group ++ group.flatMap capitals

/-- The letters of ASCII that differ from a character in case alone. -/
def asciiVariants (c : Char) : List Nat := [c.toLower.toNat, c.toUpper.toNat]

end Text
end Sitemap
