/-
Selecting rows: conditions and orders over the fields of a model.

A lookup is a list of names, parted by double underscores.  It follows relations to a field, may ask
for a part of it, and may end in an operator.  A name that the model lacks is refused.

A row is looked at together with the rows that it leads to: `joined` gives it once for every row of a
relation that a condition or an order follows, and once with nothing there when the relation has no
rows.  A row that meets a condition in several ways is selected as often.

What is refused when: names and values with the condition, names again with the order, and the rest
when rows are read.
-/
import Sitemap.Column.Part
import Sitemap.Distinct
import Sitemap.Fetch
import Sitemap.Site.Lookup
import Sitemap.Site.Content
import Sitemap.Site.Models

namespace Sitemap
namespace Site

/-- The parts of `cs` between double underscores: the first and the others. -/
def splitDouble : List Char → List Char × List (List Char)
  | [] => ([], [])
  | '_' :: '_' :: cs => ([], (splitDouble cs).1 :: (splitDouble cs).2)
  | c :: cs => (c :: (splitDouble cs).1, (splitDouble cs).2)

def lookupNames (s : String) : List String :=
  let (first, rest) := splitDouble s.toList
  (first :: rest).map String.ofList

/-- The name of a row's number. -/
def idName : String := "id"

/-- The field of a name: by its own name or by that of its column; `pk` is the row's number. -/
def fieldOf? (m : Model) (name : String) : Option Field :=
  let name := if name = "pk" then idName else name
  m.fields.find? fun f => f.name == name || f.column == .text name

/-- A column, and the relations that lead to it. -/
structure Place where
  path : List String
  column : String
  /-- Whether the column stands for the row that it is in. -/
  related : Bool := false
  deriving DecidableEq

/-- The place that names lead to, and the names that are left over. -/
def place? (schema : Schema) (m : Model) : List String → Option (Place × List String)
  | [] => none
  | name :: rest =>
    (fieldOf? m name).map fun f =>
      match f.related.bind schema.find? with
      | none => (⟨[], f.name, false⟩, rest)
      | some target =>
        match place? schema target rest with
        | some (place, left) => ({ place with path := f.name :: place.path }, left)
        | none => (⟨[f.name], idName, true⟩, rest)

/-- A row with the rows that it leads to, by the relations followed. -/
abbrev Joined := List (List String × Value)

namespace Joined

/-- The row at the end of a path, null when there is none. -/
def row (r : Joined) (path : List String) : Value :=
  ((r.find? fun e => e.1 == path).map Prod.snd).getD .null

def base (r : Joined) : Value := r.row []

def valueAt (r : Joined) (place : Place) : Value :=
  match r.row place.path with
  | .object attributes => (Entries.get? place.column attributes).getD .null
  | _ => .null

end Joined

/-- The rows that a relation of a row leads to; none is one null row. -/
def relatedRows (name : String) : Value → List Value
  | .object attributes =>
    match (Entries.get? name attributes).getD .null with
    | .series _ [] => [.null]
    | .series _ items => items
    | v => [v]
  | _ => [.null]

/-- The ways to follow one more relation, the last of a path. -/
def follow (path : List String) (r : Joined) : List Joined :=
  (relatedRows (path.getLastD "") (r.row path.dropLast)).map fun v => r ++ [(path, v)]

/-- A row in all ways to follow some paths, each after those that it begins with. -/
def joined (paths : List (List String)) (row : Value) : List Joined :=
  paths.foldl (fun rs path => rs.flatMap (follow path)) [[([], row)]]

/-- The paths that a path begins with, and the path itself. -/
def stages (path : List String) : List (List String) :=
  (List.range path.length).map fun n => path.take (n + 1)

/-- A value that is looked for in rows: what is at a place, or a part of it. -/
structure Reading where
  place : Place
  type : ColumnType
  part : Value → Value := id

namespace Reading

def ofPlace? (place : Place) : Option Reading :=
  (columnType? place.column).map fun type => { place := place, type := type }

def valueOf (r : Reading) (row : Joined) : Value := r.part (row.valueAt r.place)

def key (r : Reading) (row : Joined) : Value :=
  match r.type, r.valueOf row with
  | .document, v => .text (ColumnType.written ColumnType.spaced v)
  | .member, .list [v] => ColumnType.plainForm v
  | _, v => v

/-- What is shown of a row: a part of a document as it is handed out. -/
def shown (r : Reading) (row : Joined) : Except ColumnFault Value :=
  match r.type, r.valueOf row with
  | .member, .list [v] => ColumnType.handedOut v
  | _, v => .ok v

/-- Whether what is read cannot be reached in a row. -/
def breaks (r : Reading) (row : Joined) : Bool :=
  r.type = .member && r.valueOf row = ColumnType.unreachable

/-- The rows that have been found, if what is read can be reached in all of them. -/
def reaching (r : Reading) (rows : List Joined) : Except ColumnFault (List Joined) :=
  if rows.any r.breaks then .error .unaskable else .ok rows

def part? (r : Reading) (name : String) : Option Reading :=
  if r.place.related then none
  else (r.type.part? name).map fun (type, f) => { r with type := type, part := f ∘ r.part }

def parts? (r : Reading) : List String → Option Reading
  | [] => some r
  | name :: rest => (r.part? name).bind fun r => parts? r rest

/-- The test of a reading by an operator, if it knows the operator. -/
def test? (r : Reading) (operator : String) (v : Value) :
    Option (Except ColumnFault (Test Joined)) :=
  (Test.ofColumn r.place.related r.type operator v).map fun t =>
    t.map fun t => (t.on r.valueOf).guarded r.breaks

/-- The test that the names left over at a place ask for. -/
def ask? (r : Reading) (v : Value) : List String → Option (Except ColumnFault (Test Joined))
  | [] => r.test? "exact" v
  | [name] => (r.test? name v).or ((r.part? name).bind fun r => r.test? "exact" v)
  | name :: rest => (r.part? name).bind fun r => ask? r v rest

end Reading

def leafTest (schema : Schema) (m : Model) (lookup : String) (v : Value) :
    Except Failure (Test Joined) :=
  let asked := do
    let (place, left) ← place? schema m (lookupNames lookup)
    let reading ← Reading.ofPlace? place
    reading.ask? v left
  match asked with
  | some test => test.mapError .column
  | none => .error .unknownField

/-- What a group asks when its children ask this. -/
def groupTest (connector : Filter.Connector) (negated : Bool) (tests : List (Test Joined)) :
    Test Joined :=
  if tests.isEmpty then .everything
  else
    let test := match connector with
      | .and => Test.all tests
      | .or => Test.any tests
      | .xor => .rows fun row => (tests.countP fun t => t.meets row) % 2 == 1
    if negated then test.negate else test

mutual

def testOf (schema : Schema) (m : Model) : Filter.Condition → Except Failure (Test Joined)
  | .leaf lookup v => leafTest schema m lookup v
  | .group connector negated children =>
    (testsOf schema m children).map (groupTest connector negated.truthy)

def testsOf (schema : Schema) (m : Model) :
    List Filter.Condition → Except Failure (List (Test Joined))
  | [] => .ok []
  | c :: cs => do
    let t ← testOf schema m c
    let ts ← testsOf schema m cs
    return t :: ts

end

mutual

def lookupsOf : Filter.Condition → List String
  | .leaf lookup _ => [lookup]
  | .group _ _ children => lookupsOfAll children

def lookupsOfAll : List Filter.Condition → List String
  | [] => []
  | c :: cs => lookupsOf c ++ lookupsOfAll cs

end

/-- The relations that lookups follow, each after those that lead to it. -/
def pathsOf (schema : Schema) (m : Model) (lookups : List String) : List (List String) :=
  distinct (lookups.flatMap fun lookup =>
    ((place? schema m (lookupNames lookup)).map fun p => stages p.1.path).getD [])

/-- Whether a value comes before another or with it: null first, then numbers, texts by code
point. -/
def comesBefore (a b : Value) : Bool :=
  if a = .null then true
  else if b = .null then false
  else !Test.belowPlain b a

/-- The name that leaves the order open. -/
def openOrder : String := "?"

/-- What rows are ordered by, downwards or not. -/
structure Order where
  reading : Reading
  descending : Bool := false

/-- The lookup of an order, and whether a minus sign turns it round. -/
def orderLookup (name : String) : String × Bool :=
  match name.toList with
  | '-' :: cs => (String.ofList cs, true)
  | _ => (name, false)

def order? (schema : Schema) (m : Model) (name : String) : Option Order := do
  let (lookup, descending) := orderLookup name
  let (place, left) ← place? schema m (lookupNames lookup)
  let reading ← Reading.ofPlace? place
  let reading ← reading.parts? left
  return { reading := reading, descending := descending }

def Order.sort (o : Order) (rows : List Joined) : List Joined :=
  rows.mergeSort fun a b =>
    if o.descending then comesBefore (o.reading.key b) (o.reading.key a)
    else comesBefore (o.reading.key a) (o.reading.key b)

def run (test : Test Joined) (rows : List Joined) : Except ColumnFault (List Joined) :=
  match test with
  | .nothing => .ok []
  | .everything => .ok rows
  | .rows _ (some fault) _ | .failing fault => .error fault
  | .rows holds none breaks =>
    if rows.any breaks then .error .unaskable else .ok (rows.filter holds)

/-- The number of rows to read at once: no negative one, and none without end. -/
def batchCount (size : BatchSize) : Except ColumnFault Int :=
  match size.number? with
  | none => .error .noNumber
  | some n =>
    if n.num < 0 then .error .noNumber
    else if n.finite then .ok n.truncate
    else .error .tooLarge

/-- Read what a test selects of some rows in batches of a size.  No rows are looked at for batches
without rows, and a size that does not fit is refused when they are. -/
def list (test : Test Joined) (rows : List Joined) (size : BatchSize) :
    Except ColumnFault (List Joined) := do
  let count ← batchCount size
  let found ← run (if count = 0 then test.both .nothing else test) rows
  match test with
  | .nothing => return []
  | _ => if ColumnType.fits (.int count) then return found else .error .refused

/-- The rows that meet a condition, in the order of a name or else in the usual order.  `rows` gives
the rows of the model with relations that can be followed to a depth. -/
def select (schema : Schema) (m : Model) (usual : List Value → List Value)
    (rows : Nat → List Value) (condition : Filter.Group) :
    Except Failure (Option String → Except Failure Listing) := do
  let test ← testOf schema m condition.toCondition
  let lookups := lookupsOf condition.toCondition
  return fun name => do
    let order ← match name with
      | none => .ok none
      | some name =>
        if name = openOrder then .ok none
        else
          match order? schema m name with
          | some o => .ok (some o)
          | none => .error .unknownField
    let paths := pathsOf schema m (lookups ++ (name.map fun s => (orderLookup s).1).toList)
    let depth := paths.foldl (fun n path => max n path.length) Content.pageDepth
    let all := (usual (rows depth)).flatMap (joined paths)
    let all := (order.map fun o => o.sort all).getD all
    let ordered := fun rows => (order.map fun o => o.reading.reaching rows).getD (.ok rows)
    return fun size =>
      ((list test all size >>= ordered).map fun found => found.map Joined.base).mapError .column

end Site
end Sitemap
