/-
The numbers that floats stand for.

A float is carried by its spelling: a sign, digits with a point, perhaps a power of ten, or the name
of an infinity or of no number at all.  `Ratio.ofSpelling?` gives the number as a quotient of whole
numbers, infinities as quotients by zero.  A whole number of a power of ten is rounded to the
nearest one with 53 binary digits, since no other float is spelled like that.
-/
import Sitemap.Text.Numeral
import Sitemap.Text.Split
import Sitemap.Value

namespace Sitemap

/-- A quotient of whole numbers; the denominator zero makes it infinite. -/
structure Ratio where
  num : Int
  den : Nat
  deriving DecidableEq, Repr

/-- The whole number nearest to a quotient, an even one when two are as near. -/
def roundQuotient (a b : Nat) : Nat :=
  let q := a / b
  let up := 2 * (a % b) > b || (2 * (a % b) = b && q % 2 = 1)
  if up then q + 1 else q

/-- The multiple of `2 ^ shift` nearest to `n`, an even one when two are as near. -/
def roundTo (shift n : Nat) : Nat := roundQuotient n (Nat.pow 2 shift) * Nat.pow 2 shift

/-- The nearest number with 53 binary digits. -/
def nearestFloat (n : Nat) : Nat := roundTo (n.log2 - 52) n

/-- A number with at most 53 binary digits is kept. -/
theorem nearestFloat_of_lt {n : Nat} (h : n < Nat.pow 2 53) : nearestFloat n = n := by
  have hs : n.log2 - 52 = 0 := by
    have : n.log2 < 53 := by
      by_cases hn : n = 0
      · subst hn; decide
      · exact (Nat.log2_lt hn).mpr h
    omega
  simp [nearestFloat, hs, roundTo, roundQuotient, Nat.mod_one]

namespace Ratio

/-- The number that digits before and after a point and a power of ten stand for. -/
def ofDigits (whole fraction : List Char) (exponent : Int) : Option Ratio := do
  let digits ← Text.readDigits? 10 Text.digit? (whole ++ fraction)
  let shift := exponent - (fraction.length : Nat)
  return if shift < 0 then ⟨digits, Nat.pow 10 shift.natAbs⟩
    else ⟨nearestFloat (digits * Nat.pow 10 shift.natAbs), 1⟩

/-- The number without its sign. -/
def ofUnsigned? (s : String) : Option Ratio :=
  if s = "inf" then some ⟨1, 0⟩
  else
    let (mantissa, power) := Text.split 'e' s
    let (whole, fraction) := Text.split '.' mantissa
    let exponent := match power with
      | [] => some 0
      | p :: _ => Text.readInt? p
    exponent.bind (ofDigits whole.toList (fraction.headD "").toList)

def ofSpelling? (s : String) : Option Ratio :=
  match s.toList with
  | '-' :: cs => (ofUnsigned? (String.ofList cs)).map fun r => { r with num := -r.num }
  | _ => ofUnsigned? s

def ofInt (n : Int) : Ratio := ⟨n, 1⟩

def finite (r : Ratio) : Bool := r.den != 0

def whole? (r : Ratio) : Option Int :=
  if r.finite && r.num % r.den = 0 then some (r.num / r.den) else none

/-- The number without its fraction. -/
def truncate (r : Ratio) : Int := r.num.tdiv r.den

/-- The least whole number that is not below. -/
def ceiling (r : Ratio) : Int := -((-r.num) / r.den)

def lt (a b : Ratio) : Bool :=
  if a.den = 0 ∧ b.den = 0 then a.num < b.num else a.num * b.den < b.num * a.den

end Ratio

/-- The number that a value is, where truth values are the numbers 0 and 1. -/
def Value.number? : Value → Option Ratio
  | .bool b => some (.ofInt b.toNat)
  | .int n => some (.ofInt n)
  | .literal .float s => Ratio.ofSpelling? s
  | _ => none

end Sitemap
