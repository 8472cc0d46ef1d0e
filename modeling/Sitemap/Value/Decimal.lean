/-
Numbers in decimal and how they are laid out.

A `Decimal` is a whole number times a power of ten.  `Decimal.written` lays it out by a `Layout`:
with a point among its digits if they are near it, else with the first digit before the point and a
power of ten at the end.  Zeros at the end of the digits make no difference.
-/
import Sitemap.Text.Numeral

namespace Sitemap

/-- A number in decimal: `digits * 10 ^ exponent`. -/
structure Decimal where
  digits : Nat
  exponent : Int
  deriving DecidableEq, Repr

/-- How a number in decimal is laid out. -/
structure Decimal.Layout where
  /-- From this power of ten on the power is written at the end. -/
  limit : Int
  /-- Whether there is a point also where no digits follow it. -/
  pointed : Bool

namespace Decimal

/-- The digits without the zeros at their end. -/
def significant (d : Decimal) : List Char :=
  ((Text.toDigits d.digits).reverse.dropWhile (· = '0')).reverse

/-- The power of ten of the first digit. -/
def leading (d : Decimal) : Int := d.exponent + (Text.toDigits d.digits).length - 1

def zeros (n : Nat) : List Char := List.replicate n '0'

/-- Digits after a point; where there are none, `none`. -/
def fraction (none : List Char) (ds : List Char) : List Char := if ds = [] then none else '.' :: ds

/-- The number with a point among its digits. -/
def positional (d : Decimal) : List Char :=
  let ds := d.significant
  if d.leading < 0 then '0' :: '.' :: zeros (d.leading.natAbs - 1) ++ ds
  else
    let n := d.leading.toNat + 1
    ds.take n ++ zeros (n - ds.length) ++ fraction ['.', '0'] (ds.drop n)

/-- The number with its first digit before the point, and a power of ten. -/
def scientific (pointed : Bool) (d : Decimal) : List Char :=
  let ds := d.significant
  let power := Text.toDigits d.leading.natAbs
  ds.take 1 ++ fraction (if pointed then ['.', '0'] else []) (ds.drop 1)
    ++ ['e', if d.leading < 0 then '-' else '+'] ++ zeros (2 - power.length) ++ power

def written (l : Layout) (d : Decimal) : String :=
  String.ofList
    (if -4 ≤ d.leading ∧ d.leading < l.limit then d.positional else d.scientific l.pointed)

end Decimal
end Sitemap
