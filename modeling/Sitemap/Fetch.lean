/-
Fetching the pages of a query, batch by batch.

A fetch first states what it wants: a condition, relations to load along, an order.  Then it reads
batches of a fixed size until one comes back short.  What it asks of the source and what it reports
is kept as a trace, also when the fetch fails.

A source may refuse a condition, an order, or the size of the batches; the last it does when the
first batch is read.

`readPages` counts its batches down from a bound, so that a batch size of zero, with which no batch
is ever short, has no result; `fetch` uses one batch more than there are rows, which is enough for
every larger size.
-/
import Sitemap.Failure
import Sitemap.Notice
import Sitemap.PageQuery
import Sitemap.Record.Build
import Sitemap.Schema
import Sitemap.Value.Number

namespace Sitemap

/-- What a fetch asks of its source. -/
inductive Request where
  | filter (condition : Filter.Group)
  | prefetch (relations : List String)
  | orderBy (name : String)
  | slice (start stop : Value)

/-- A computation that leaves a trace and may fail. -/
structure Run (α : Type) where
  requests : List Request
  notices : List Notice
  result : Except Failure α

namespace Run

variable {α β : Type}

def pure (a : α) : Run α := ⟨[], [], .ok a⟩

def bind (r : Run α) (f : α → Run β) : Run β :=
  match r.result with
  | .ok a => ⟨r.requests ++ (f a).requests, r.notices ++ (f a).notices, (f a).result⟩
  | .error e => ⟨r.requests, r.notices, .error e⟩

instance : Monad Run where
  pure := pure
  bind := bind

def request (r : Request) : Run Unit := ⟨[r], [], .ok ()⟩

def report (n : Notice) : Run Unit := ⟨[], [n], .ok ()⟩

/-- A computation without a trace. -/
def lift (r : Except Failure α) : Run α := ⟨[], [], r⟩

def liftShape (r : Except ShapeFault α) : Run α := lift (r.mapError .shape)

end Run

/-- How many rows a batch is to have: a whole number, or a float. -/
inductive BatchSize where
  | whole (n : Int)
  | spelled (s : String)
  deriving DecidableEq

namespace BatchSize

def ofValue : Value → Except ShapeFault BatchSize
  | .int n => .ok (.whole n)
  | .bool b => .ok (.whole b.toNat)
  | .literal .float s => .ok (.spelled s)
  | _ => .error .wrongArgument

def number? : BatchSize → Option Ratio
  | .whole n => some (.ofInt n)
  | .spelled s => Ratio.ofSpelling? s

/-- The number of rows that are read at once. -/
def count (size : BatchSize) : Nat := ((size.number?.map Ratio.truncate).getD 0).toNat

def isShort (size : BatchSize) (n : Nat) : Bool :=
  (size.number?.map (Ratio.lt (.ofInt n))).getD false

/-- The place where the batch of an index begins.  Whole sizes give whole numbers; a float gives
floats after the first batch, and the first place after it is the size itself. -/
def place (size : BatchSize) (index : Nat) : Value :=
  match size, index with
  | .whole n, _ => .int (index * n)
  | .spelled _, 0 => .int 0
  | .spelled s, 1 => .literal .float s
  | .spelled _, _ => .literal .float (toString (index * size.count) ++ ".0")

/-- A batch of a natural size is short when it has fewer rows. -/
theorem isShort_whole (size n : Nat) : isShort (.whole size) n = decide (n < size) := by
  simp [isShort, number?, Ratio.ofInt, Ratio.lt]

end BatchSize

/-- Selected rows, read in batches of a size. -/
abbrev Listing := BatchSize → Except Failure (List Value)

/-- Where pages are read from: a condition selects rows of a model, which are listed in an order. -/
structure PageSource where
  model : Model
  select : Filter.Group → Except Failure (Option String → Except Failure Listing)

namespace Fetch

structure Wanted where
  /-- The condition, or why there is none. -/
  condition : Except ShapeFault Filter.Group
  populate : Value
  orderBy : Value
  fields : Value

def Wanted.ofQuery (q : PageQuery) : Wanted where
  condition := q.filters.compile
  populate := PageQuery.populateValue q.populate
  orderBy := q.orderBy
  fields := .texts q.fields

def Wanted.ofValue (query : Value) : Except ShapeFault Wanted := do
  let spec ← query.lookedUp
  return {
    condition := Filter.compile ((Entries.get? "filters" spec).getD .null)
    populate := (Entries.get? "populate" spec).getD (.mapping [])
    orderBy := (Entries.get? "orderBy" spec).getD .null
    fields := (Entries.get? "fields" spec).getD (.list []) }

def relationsToLoad (m : Model) (populate : Value) : Except ShapeFault (List String) := do
  let names ← populate.elements
  if names.all Value.hashable then
    return (names.filterMap Value.text?).filter fun name => m.relations.keys.contains name
  else .error .unhashable

def orderLookup (v : Value) : Except ShapeFault (Option String) :=
  match v with
  | .text s => .ok (if s = "" then none else some (Text.join "__" (Text.parts '.' s)))
  | .literal .date _ | .literal .dateTime _ | .literal .time _ => .error .wrongArgument
  | v => if v.truthy then .error (v.calling "replace") else .ok none

def ask (source : PageSource) (wanted : Wanted) : Run Listing := do
  let condition ← Run.liftShape wanted.condition
  Run.request (.filter condition)
  let selected ← Run.lift (source.select condition)
  let relations ← Run.liftShape (relationsToLoad source.model wanted.populate)
  if relations ≠ [] then Run.request (.prefetch relations)
  let order ← Run.liftShape (orderLookup wanted.orderBy)
  match order with
  | some name => Run.request (.orderBy name)
  | none => Run.pure ()
  Run.lift (selected order)

/-- Ask a source for a batch. -/
def requestBatch (size : BatchSize) (index : Nat) : Run Unit :=
  Run.request (.slice (size.place index) (size.place (index + 1)))

def readBatch (build : Value → Except ShapeFault (Entries Value)) (model : String)
    (size : BatchSize) (index : Nat) (batch : List Value) : Run (List (Entries Value)) := do
  requestBatch size index
  let records ← Run.liftShape (batch.mapM build)
  Run.report (.fetched batch.length model (size.place index))
  return records

/-- Read the rows from the batch of an index on, in at most `bound` batches; none when the bound is
too low. -/
def readPages (build : Value → Except ShapeFault (Entries Value)) (model : String)
    (size : BatchSize) : Nat → Nat → List Value → Option (Run (List (Entries Value)))
  | 0, _, _ => none
  | bound + 1, index, rows =>
    let batch := rows.take size.count
    let head := readBatch build model size index batch
    if size.isShort batch.length then some head
    else (readPages build model size bound (index + 1) (rows.drop size.count)).map fun rest => do
      let records ← head
      let others ← rest
      return records ++ others

/-- Fetch what is wanted, in batches of the size given, or else of that of the settings.  None when
the fetch never ends. -/
def fetch (s : Settings) (source : PageSource) (wanted : Wanted) (given : Value) :
    Option (Run (List (Entries Value))) :=
  let asked : Run (Listing × BatchSize) := do
    let listing ← ask source wanted
    let size ← Run.liftShape (BatchSize.ofValue (if given = .null then s.pageSize else given))
    return (listing, size)
  match asked.result with
  | .error e => some ⟨asked.requests, asked.notices, .error e⟩
  | .ok (listing, size) =>
    match listing size with
    | .error e => some (asked.bind fun _ => do
        requestBatch size 0
        Run.lift (.error e))
    | .ok rows =>
      (readPages (fun obj => Record.build obj wanted.fields wanted.populate) source.model.name size
        (rows.length + 1) 0 rows).map fun read => asked.bind fun _ => read

def fetchValue (s : Settings) (source : PageSource) (query given : Value) :
    Option (Run (List (Entries Value))) :=
  match Wanted.ofValue query with
  | .error e => some (Run.liftShape (.error e))
  | .ok wanted => fetch s source wanted given

end Fetch
end Sitemap
