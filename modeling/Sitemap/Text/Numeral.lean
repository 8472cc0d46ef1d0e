/-
Whole numbers as people write them.

A numeral is a run of digits, which may be those of any script, with single underscores between
them.  It may have a sign before it and blanks around it.  `readInt?` reads decimal numerals, of
4300 digits at most, and `readHex?` hexadecimal ones, whose letters are those of ASCII and which may
begin with `0x`.
`readDigits?_toDigits` is what the rest stands on: the decimal digits of a number are read back.
-/
import Sitemap.Text.Ranges

namespace Sitemap
namespace Text

/-- The code points of the digits zero; nine more digits follow each of them. -/
def zeroDigits : List Nat :=
  [0x30, 0x660, 0x6F0, 0x7C0, 0x966, 0x9E6, 0xA66, 0xAE6, 0xB66, 0xBE6, 0xC66, 0xCE6, 0xD66, 0xDE6,
    0xE50, 0xED0, 0xF20, 0x1040, 0x1090, 0x17E0, 0x1810, 0x1946, 0x19D0, 0x1A80, 0x1A90, 0x1B50,
    0x1BB0, 0x1C40, 0x1C50, 0xA620, 0xA8D0, 0xA900, 0xA9D0, 0xA9F0, 0xAA50, 0xABF0, 0xFF10,
    0x104A0, 0x10D30, 0x11066, 0x110F0, 0x11136, 0x111D0, 0x112F0, 0x11450, 0x114D0, 0x11650,
    0x116C0, 0x11730, 0x118E0, 0x11950, 0x11C50, 0x11D50, 0x11DA0, 0x16A60, 0x16AC0, 0x16B50,
    0x1D7CE, 0x1D7D8, 0x1D7E2, 0x1D7EC, 0x1D7F6, 0x1E140, 0x1E2F0, 0x1E950, 0x1FBF0]

/-- The number that a decimal digit of any script stands for. -/
def digit? (c : Char) : Option Nat :=
  (zeroDigits.find? fun z => z ≤ c.toNat && c.toNat < z + 10).map (c.toNat - ·)

/-- The number that a hexadecimal digit stands for. -/
def hexDigit? (c : Char) : Option Nat :=
  if 'a' ≤ c ∧ c ≤ 'f' then some (c.toNat - 'a'.toNat + 10)
  else if 'A' ≤ c ∧ c ≤ 'F' then some (c.toNat - 'A'.toNat + 10)
  else digit? c

/-- The code points of blank characters. -/
def blankRanges : List (Nat × Nat) :=
  [(0x9, 0xD), (0x1C, 0x20), (0x85, 0x85), (0xA0, 0xA0), (0x1680, 0x1680), (0x2000, 0x200A),
    (0x2028, 0x2029), (0x202F, 0x202F), (0x205F, 0x205F), (0x3000, 0x3000)]

def isBlank (c : Char) : Bool := inRanges c.toNat blankRanges

/-- Whether a character may stand around a numeral: a blank that is no separator of ASCII. -/
def isPadding (c : Char) : Bool := isBlank c && !(0x1C ≤ c.toNat && c.toNat < 0x20)

/-- The characters between the blanks at both ends. -/
def trimPadding (cs : List Char) : List Char :=
  ((cs.dropWhile isPadding).reverse.dropWhile isPadding).reverse

/-- Go on reading a numeral of which `n` has been read and `c` comes next; after an underscore there
must be a digit. -/
def readDigitsFrom (base : Nat) (value? : Char → Option Nat) (n : Nat) (gap : Bool) :
    List Char → Option Nat
  | [] => if gap then none else some n
  | c :: cs =>
    if c = '_' then if gap then none else readDigitsFrom base value? n true cs
    else match value? c with
      | some d => readDigitsFrom base value? (n * base + d) false cs
      | none => none

/-- The number that digits with single underscores between them stand for. -/
def readDigits? (base : Nat) (value? : Char → Option Nat) (cs : List Char) : Option Nat :=
  readDigitsFrom base value? 0 true cs

def splitSign : List Char → Int × List Char
  | '-' :: cs => (-1, cs)
  | '+' :: cs => (1, cs)
  | cs => (1, cs)

/-- How many digits a decimal numeral may have. -/
def mostDigits : Nat := 4300

/-- The whole number that a text writes in decimal. -/
def readInt? (s : String) : Option Int :=
  let (sign, digits) := splitSign (trimPadding s.toList)
  if (digits.filter (· ≠ '_')).length ≤ mostDigits then
    (readDigits? 10 digit? digits).map fun n => sign * n
  else none

/-- The digits of a hexadecimal numeral after the mark that it may begin with, which an underscore
may part from them. -/
def dropHexMark : List Char → List Char
  | '0' :: 'x' :: '_' :: cs | '0' :: 'X' :: '_' :: cs => cs
  | '0' :: 'x' :: cs | '0' :: 'X' :: cs => cs
  | cs => cs

/-- The whole number that a text writes in hexadecimal. -/
def readHex? (s : String) : Option Int :=
  let (sign, digits) := splitSign (trimPadding s.toList)
  (readDigits? 16 hexDigit? (dropHexMark digits)).map fun n => sign * n

/-- A number that is read on after digits of a script is the number of all digits. -/
theorem readDigitsFrom_append {base n m : Nat} {value? : Char → Option Nat} {gap : Bool}
    {p q : List Char} (h : readDigitsFrom base value? n gap p = some m) :
    readDigitsFrom base value? n gap (p ++ q) = readDigitsFrom base value? m false q := by
  induction p generalizing n gap with
  | nil =>
    cases gap with
    | true => simp [readDigitsFrom] at h
    | false => rw [List.nil_append, show n = m by simpa [readDigitsFrom] using h]
  | cons c p ih =>
    rw [readDigitsFrom] at h
    rw [List.cons_append, readDigitsFrom]
    by_cases hc : c = '_'
    · simp only [hc, if_true] at h ⊢
      cases gap with
      | true => simp at h
      | false => exact ih h
    · simp only [hc, if_false] at h ⊢
      cases hv : value? c with
      | none => simp [hv] at h
      | some d => exact ih (by simpa [hv] using h)

/-- A digit of ASCII stands for itself. -/
theorem digit?_ofNat : ∀ d, d < 10 → digit? (Char.ofNat (48 + d)) = some d := by decide

/-- The decimal digits of a number. -/
def toDigits (n : Nat) : List Char :=
  if h : n < 10 then [Char.ofNat (48 + n)] else toDigits (n / 10) ++ [Char.ofNat (48 + n % 10)]
termination_by n
decreasing_by omega

/-- The decimal digits of a number are read back. -/
theorem readDigits?_toDigits (n : Nat) : readDigits? 10 digit? (toDigits n) = some n := by
  have underscore : ∀ d, d < 10 → Char.ofNat (48 + d) ≠ '_' := by decide
  induction n using toDigits.induct with
  | case1 n h =>
    rw [toDigits, dif_pos h]
    simp [readDigits?, readDigitsFrom, digit?_ofNat n h, underscore n h]
  | case2 n h ih =>
    have hd : n % 10 < 10 := Nat.mod_lt _ (by decide)
    rw [toDigits, dif_neg h, readDigits?, readDigitsFrom_append ih]
    simp only [readDigitsFrom, underscore _ hd, digit?_ofNat _ hd, if_false]
    simp only [Bool.false_eq_true, if_false, Option.some.injEq]
    omega

end Text
end Sitemap
