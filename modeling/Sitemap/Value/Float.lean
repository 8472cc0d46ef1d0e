/-
The floats nearest to numbers, and how they are spelled.

A float without its sign is a whole number of at most 53 binary digits times a power of two.
`Magnitude.nearest?` gives the one nearest to a quotient, the even one of two that are as near; a
quotient beyond all floats has none.

`Ratio.spelling` spells the float nearest to a number with the fewest decimal digits that have this
float as their nearest, `Ratio.brief` with at most fifteen.  `isNearest_of_shortest?` says that the
fewest digits lead back to the float.
-/
import Sitemap.Value.Decimal
import Sitemap.Value.Number

namespace Sitemap

/-- A float without its sign: `significand * 2 ^ exponent`. -/
structure Magnitude where
  significand : Nat
  exponent : Int
  deriving DecidableEq, Repr

/-- A quotient times a power. -/
def scaled (base : Nat) (power : Int) (a b : Nat) : Nat × Nat :=
  if power < 0 then (a, b * Nat.pow base power.natAbs)
  else (a * Nat.pow base power.natAbs, b)

namespace Magnitude

/-- The power of two of the last digit of a float that is nearest to `a / b`. -/
def lastPlace (a b : Nat) : Int :=
  let place : Int := (a.log2 : Int) - b.log2 - 53
  let (x, y) := scaled 2 (-place) a b
  max (if Nat.pow 2 53 * y ≤ x then place + 1 else place) (-1074)

/-- The float of a significand that may have become too long by rounding, unless it is too large. -/
def ofRounded (significand : Nat) (place : Int) : Option Magnitude :=
  let f : Magnitude :=
    if significand = Nat.pow 2 53 then ⟨Nat.pow 2 52, place + 1⟩ else ⟨significand, place⟩
  if f.exponent ≤ 971 then some f else none

def nearest? (a b : Nat) : Option Magnitude :=
  let place := lastPlace a b
  let (x, y) := scaled 2 (-place) a b
  ofRounded (roundQuotient x y) place

def quotient (f : Magnitude) : Nat × Nat := scaled 2 f.exponent f.significand 1

/-- The power of ten of the first decimal digit of `a / b`. -/
def decade (a b : Nat) : Int :=
  if b ≤ a then (Text.toDigits (a / b)).length - 1
  else
    let n := (Text.toDigits (b / a)).length
    if b = a * Nat.pow 10 (n - 1) then -(n - 1) else -n

/-- The two numbers of some decimal digits next to a float, the nearer one first. -/
def neighbours (f : Magnitude) (digits : Nat) : List Decimal :=
  let (a, b) := f.quotient
  let place := decade a b - (digits - 1)
  let (x, y) := scaled 10 (-place) a b
  let low : Decimal := ⟨x / y, place⟩
  let high : Decimal := ⟨x / y + 1, place⟩
  if roundQuotient x y = low.digits then [low, high] else [high, low]

def isNearest (f : Magnitude) (d : Decimal) : Bool :=
  let (x, y) := scaled 10 d.exponent d.digits 1
  nearest? x y = some f

/-- The fewest decimal digits that have the float as their nearest. -/
def shortest? (f : Magnitude) : Option Decimal :=
  (List.range 17).findSome? fun n => (f.neighbours (n + 1)).find? f.isNearest

/-- What is found leads back to the float. -/
theorem isNearest_of_shortest? {f : Magnitude} {d : Decimal} (h : f.shortest? = some d) :
    f.isNearest d = true := by
  obtain ⟨n, -, hn⟩ := List.exists_of_findSome?_eq_some h
  exact List.find?_some hn

def exact (f : Magnitude) : Decimal :=
  if f.exponent < 0 then ⟨f.significand * Nat.pow 5 f.exponent.natAbs, f.exponent⟩
  else ⟨f.significand * Nat.pow 2 f.exponent.natAbs, 0⟩

/-- The float with the fewest decimal digits. -/
def shortest (f : Magnitude) : Decimal := f.shortest?.getD f.exact

/-- The float with fifteen decimal digits, of which a half is rounded up. -/
def rounded (f : Magnitude) : Decimal :=
  let (a, b) := f.quotient
  let place := decade a b - 14
  let (x, y) := scaled 10 (-place) a b
  ⟨(2 * x + y) / (2 * y), place⟩

end Magnitude

/-- Floats are spelled with a power of ten from `10 ^ 16` on. -/
def spellingLayout : Decimal.Layout := ⟨16, false⟩

/-- Floats are spelled briefly with a power of ten from `10 ^ 15` on. -/
def briefLayout : Decimal.Layout := ⟨15, true⟩

namespace Ratio

/-- The float nearest to a number without its sign; infinity has none. -/
def magnitude? (r : Ratio) : Option Magnitude :=
  if r.finite then Magnitude.nearest? r.num.natAbs r.den else none

/-- A number by its sign and by how its nearest float is written, if it has one. -/
def spelledBy (write : Magnitude → String) (infinite : String) (r : Ratio) : String :=
  (if r.num < 0 then "-" else "") ++
    match r.magnitude? with
    | some f => if f.significand = 0 then "0.0" else write f
    | none => infinite

/-- The spelling of the float nearest to a number. -/
def spelling (r : Ratio) : String :=
  r.spelledBy (fun f => f.shortest.written spellingLayout) "inf"

/-- The spelling with at most fifteen digits. -/
def brief (r : Ratio) : String :=
  r.spelledBy (fun f => f.rounded.written briefLayout) "Inf"

end Ratio
end Sitemap
