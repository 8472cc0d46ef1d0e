/-
Comparing the values of columns.

Values are compared in the form in which a column holds them.  No column holds a number that does not
fit, and none holds one of no values, so that such a test is settled; where a number that does not fit
is handed over all the same, the test cannot be run.  Null is neither before nor after anything.
-/
import Sitemap.Column.Part
import Sitemap.Site.Test

namespace Sitemap
namespace Site
namespace Test

/-- What is wrong with a value that is asked for, if it does not fit. -/
def sizeFault? (v : Value) : Option ColumnFault :=
  if ColumnType.fits v then none else some .tooLarge

/-- The values that are asked for, if there is any; null is none. -/
def among (vs : List Value) : Test Value :=
  match vs.filter (· ≠ .null) with
  | [] => .nothing
  | vs => .rows (fun w => w ∈ vs) (vs.findSome? sizeFault?)

def null (b : Bool) : Test Value := .rows fun w => (w == .null) == b

/-- The test for one value, which has been read. -/
def equal (related : Bool) (v : Value) : Test Value :=
  if v = .null then null true
  else if !related && !ColumnType.fits v then .nothing
  else .rows (fun w => w == v) (sizeFault? v)

/-- Whether a stored value comes before another of its column. -/
def below : Value → Value → Bool
  | .bool a, .bool b => !a && b
  | .int a, .int b => a < b
  | .text a, .text b => a < b
  | .literal _ a, .literal _ b => a < b
  | _, _ => false

/-- Whether a part of a document comes before another: numbers by size, and before texts. -/
def belowPlain (a b : Value) : Bool :=
  match a.number?, b.number? with
  | some x, some y => x.lt y
  | some _, none => true
  | none, some _ => false
  | none, none => below a b

/-- How values are compared by an operator of order. -/
def orderOperator? (before : Value → Value → Bool) : String → Option (Value → Value → Bool)
  | "lt" => some before
  | "lte" => some fun w v => before w v || w == v
  | "gt" => some fun w v => before v w
  | "gte" => some fun w v => before v w || w == v
  | _ => none

/-- A float before it is compared with whole numbers by an operator of order. -/
def roundUp (operator : String) (v : Value) : Except ColumnFault Value :=
  match v, operator with
  | .literal .float s, "lt" | .literal .float s, "gte" =>
    match Ratio.ofSpelling? s with
    | some r => if r.finite then .ok (.int r.ceiling) else .error .tooLarge
    | none => .error .noNumber
  | v, _ => .ok v

/-- The test by an operator of order for a value that has been read. -/
def ordered (related : Bool) (operator : String) (compare : Value → Value → Bool) (v : Value) :
    Except ColumnFault (Test Value) :=
  match v with
  | .null => .error .noNumber
  | .int n =>
    if related || ColumnType.fits v then
      .ok (.rows (fun w => w ≠ .null && compare w v) (sizeFault? v))
    else .ok (if (operator.startsWith "l") = (0 < n) then .everything else .nothing)
  | v => .ok (.rows fun w => w ≠ .null && compare w v)

/-- Both ends of a range. -/
def between (before : Value → Value → Bool) (form : Value → Option Value) : List Value → Test Value
  | [] => .failing .noNumber
  | [_] => .failing .noItem
  | [low, high] =>
    let inside (w : Value) : Bool := !before w low && !before high w
    .rows (fun w => low ≠ .null && high ≠ .null && (form w).any inside)
      ((sizeFault? low).or (sizeFault? high))
  | _ => .rows (fun _ => false) (some .miscounted)

end Test
end Site
end Sitemap
