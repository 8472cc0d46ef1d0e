/-
The order of values.

Numbers are ordered by size, texts by code point, dates, times and moments by time, identifiers by
their spelling, and lists and tuples by their first items that differ.  Values of other kinds, and
values of two kinds, have no order: `comesBefore?` gives none.  `sort?` puts values into order if
every two of them have one.
-/
import Sitemap.Value.Equality

namespace Sitemap
namespace Value

open Calendar

/-- The place of a clock time or a moment on the time line, and whether its distance from universal
time is known. -/
def timePoint? : Value → Option (Bool × Int)
  | .literal .dateTime s => (Moment.read? s).map fun m => (m.offset.isSome, m.instant)
  | .literal .time s => (readClock s.toList).map fun (t, offset) =>
    (offset.isSome, t.micros - offset.getD 0)
  | _ => none

def numberLe? (a b : Value) : Option Bool := do
  let x ← a.number?
  let y ← b.number?
  return !y.lt x

mutual

/-- Whether a value comes before another or with it, if the two have an order. -/
def comesBefore? : Value → Value → Option Bool
  | .text a, b =>
    match b with
    | .text b => some (!(b < a))
    | _ => none
  | .literal .date a, b =>
    match b with
    | .literal .date b => some (!(b < a))
    | _ => none
  | .literal .uuid a, b =>
    match b with
    | .literal .uuid b => some (!(b < a))
    | _ => none
  | .literal .dateTime a, b =>
    match b, timePoint? (.literal .dateTime a), timePoint? b with
    | .literal .dateTime _, some (x, m), some (y, n) => if x = y then some (m ≤ n) else none
    | _, _, _ => none
  | .literal .time a, b =>
    match b, timePoint? (.literal .time a), timePoint? b with
    | .literal .time _, some (x, m), some (y, n) => if x = y then some (m ≤ n) else none
    | _, _, _ => none
  | .series .list as, b =>
    match b with
    | .series .list bs => itemsBefore? as bs
    | _ => none
  | .series .tuple as, b =>
    match b with
    | .series .tuple bs => itemsBefore? as bs
    | _ => none
  | .literal .float a, b => numberLe? (.literal .float a) b
  | .int a, b => numberLe? (.int a) b
  | .bool a, b => numberLe? (.bool a) b
  | _, _ => none

def itemsBefore? : List Value → List Value → Option Bool
  | [], _ => some true
  | _ :: _, [] => some false
  | a :: as, b :: bs => if alike a b then itemsBefore? as bs else comesBefore? a b

end

def sort? (vs : List Value) : Option (List Value) :=
  let ordered (a b : Value) : Bool := (comesBefore? a b).isSome
  if vs.length ≤ 1 ∨ vs.all fun a => vs.all (ordered a) then
    some (vs.mergeSort fun a b => (comesBefore? a b).getD true)
  else none

end Value
end Sitemap
