/-
Looking for values in columns.

A lookup ends in an operator, by default `exact`.  `Test.ofColumn` says what a column of a type is
asked for by an operator and a value.  The value is read as the column would hold it.

Documents, what stands in them, and years have operators of their own; a year that is asked for has
to be one of the calendar.
-/
import Sitemap.Site.Lookup.Document
import Sitemap.Site.Lookup.Text

namespace Sitemap
namespace Site
namespace Test

/-- The value that stands for a row: the first item of a tuple, else the value itself. -/
def related : Value → Except ColumnFault Value
  | .series .tuple [] => .error .noItem
  | .series .tuple (v :: _) => .ok v
  | v => .ok v

/-- A value as it is asked for in a column, which may be that of a relation. -/
def readAsked (relation : Bool) (type : ColumnType) (v : Value) : Except ColumnFault Value := do
  let v ← if relation then related v else .ok v
  type.read v

/-- What is wrong with a year that is asked for: it has to be one of the calendar. -/
def yearFault? : Value → Option ColumnFault
  | .int n =>
    if 1 ≤ n ∧ n ≤ 9999 then none
    else if -Nat.pow 2 31 ≤ n ∧ n < Nat.pow 2 31 then some .noNumber
    else some .tooLarge
  | _ => none

/-- The test of a year by equality or an operator of order. -/
def ofYear (operator : String) (v : Value) : Option (Except ColumnFault (Test Value)) :=
  let equality : Option (Value → Value → Bool) :=
    if operator = "exact" then some fun w v => w == v else none
  (equality.or (orderOperator? below operator)).map fun compare => do
    let asked ← ColumnType.readInteger v
    match asked, yearFault? asked with
    | .null, _ => if operator = "exact" then return null true else .error .noNumber
    | _, some fault => return .failing fault
    | asked, none => return .rows fun w => w ≠ .null && compare w asked

/-- The test of a column by the operators that its type has for itself. -/
def ofType (type : ColumnType) (operator : String) (v : Value) :
    Option (Except ColumnFault (Test Value)) :=
  match type with
  | .document => ofDocument operator v
  | .member => ofMember operator v
  | .year => ofYear operator v
  | _ => none

/-- The test of a column by the operators that all types have; relations know only those of order,
equality and absence. -/
def ofOperator (relation : Bool) (type : ColumnType) (operator : String) (v : Value) :
    Option (Except ColumnFault (Test Value)) :=
  if operator = "exact" then some ((readAsked relation type v).map (equal relation))
  else if operator = "in" then
    some do
      let asked ← (← itemsOf v).mapM (readAsked relation type)
      return among asked
  else if operator = "isnull" then
    some (match v with
      | .bool b => .ok (null b)
      | v => given v (.failing .noNumber))
  else match orderOperator? below operator with
    | some compare =>
      some do
        let v ← if type = .integer && !relation then roundUp operator v else .ok v
        let asked ← readAsked relation type v
        ordered relation operator compare asked
    | none =>
      if relation then none
      else if operator = "iexact" then
        some (.ok (if v = .null then null true
          else ofText type (fun w t => w == t) (askedText type v)))
      else if operator = "range" then
        some do
          let asked ← (← itemsOf v).mapM type.read
          return between below (fun w => if w = .null then none else some w) asked
      else if operator = "regex" then some (given v (ofPattern type false v))
      else if operator = "iregex" then some (given v (ofPattern type true v))
      else (ofPart? type operator v).map (given v)

/-- The test of a column by an operator and a value, none when the column does not know the
operator. -/
def ofColumn (relation : Bool) (type : ColumnType) (operator : String) (v : Value) :
    Option (Except ColumnFault (Test Value)) :=
  (if relation then none else ofType type operator v).or (ofOperator relation type operator v)

end Test
end Site
end Sitemap
