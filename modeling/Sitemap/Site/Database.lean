/-
A site's database: the newsroom, and the tables of the store.

The tables hold typed columns, but what is written, and reported about it, is answered as it was
given: an operation is run on the columns that its values are read as.  Rows can also be found,
created, changed and deleted one by one.
-/
import Sitemap.Feed
import Sitemap.Pattern.Address
import Sitemap.Site.Admission
import Sitemap.Site.Select

namespace Sitemap
namespace Site

open Store

structure Database where
  content : Content := {}
  store : State := {}

/-- What an operation answers and reports. -/
structure Report where
  answer : Except Refusal (Option (Entries Value))
  notices : List Notice := []

/-- A document as it is stored; what is none stays as it is, and is refused when it is written. -/
def documentOf (v : Value) : Value :=
  match ColumnType.readDocument v with
  | .ok document => document
  | .error _ => v

/-- The operation on the columns that its values are read as. -/
def onColumns : Operation → Except ColumnFault Operation
  | .createSitemap body name delta => (ColumnType.readInteger delta).map fun delta =>
    .createSitemap (ColumnType.readText body) (ColumnType.readText name) delta
  | .getSitemap name delta => (ColumnType.readInteger delta).map fun delta =>
    .getSitemap (ColumnType.readText name) delta
  | .deleteSitemap name => .ok (.deleteSitemap (ColumnType.readText name))
  | .createCache json name => .ok (.createCache (documentOf json) (ColumnType.readText name))
  | .updateCache json name => .ok (.updateCache (documentOf json) (ColumnType.readText name))
  | .getCache name => .ok (.getCache (ColumnType.readText name))

/-- A notice about an operation, with the values that were given. -/
def noticeOf (op : Operation) : Notice → Notice
  | .deletedSitemaps count stored =>
    match op with
    | .deleteSitemap name => .deletedSitemaps count name
    | _ => .deletedSitemaps count stored
  | notice => op.notice?.getD notice

/-- The row that an operation answers with: what it wrote, or all columns of what it found. -/
def answerRow (op : Operation) (r : Row) : Entries Value :=
  match op with
  | .createSitemap _ _ _ | .createCache _ _ | .updateCache _ _ => (Row.mk r.id op.data).toEntries
  | .getSitemap _ _ | .deleteSitemap _ => rowColumns .sitemaps r
  | .getCache _ => rowColumns .caches r

def tableObjects (db : Database) (t : TableName) : List Value :=
  (rowsById (db.store.tables t)).map (rowObject t)

/-- Objects in the order of an attribute. -/
def orderedBy (name : String) (rows : List Value) : List Value :=
  let key (row : Value) : Value := Joined.valueAt [([], row)] { path := [], column := name }
  rows.mergeSort fun a b => comesBefore (key a) (key b)

/-- Documents are usually ordered by name and part. -/
def documentOrder (rows : List Value) : List Value := orderedBy "name" (orderedBy "delta" rows)

namespace Database

/-- The rows of a model as objects, with relations that can be followed to a depth. -/
def rows (db : Database) (m : Model) (depth : Nat) : List Value :=
  if m = sitemapModel then tableObjects db .sitemaps
  else if m = cacheModel then tableObjects db .caches
  else db.content.rows depth m.name

def source (db : Database) (m : Model) : PageSource where
  model := m
  select := Site.select models m (if m = sitemapModel then documentOrder else id) (db.rows m)

def sources (db : Database) : List PageSource := models.map db.source

def setTable (t : TableName) (table : Table) (db : Database) : Database :=
  { db with store := db.store.setTable t table }

/-- Whether the locks that an operation needs can be had: those of its key, and for a deletion those
of the rows that it finds. -/
def lockable (op : Operation) (db : Database) : Bool :=
  match op with
  | .deleteSitemap name =>
    name.hashable || ((db.store.tables .sitemaps).ofName (ColumnType.readText name)).isEmpty
  | op => ((Job.operation op).lockKey?.map Key.lockable).getD true

/-- Run one operation of the store. -/
def perform (op : Operation) (db : Database) : Report × Database :=
  if !db.lockable op then (⟨.error (.shape .unhashable), []⟩, db)
  else match onColumns op with
    | .error fault => (⟨.error (.column fault), []⟩, db)
    | .ok stored =>
      let s := (db.store.perform constrained () stored).2
      (⟨((s.outcome? 0).getD (.ok none)).map fun row => row.map (answerRow op),
        s.notices.map (noticeOf op)⟩, { db with store := s })

/-- The lookups that cannot be given by name. -/
def reservedLookups : List String :=
  [Filter.selfLookup, Filter.negatedLookup, Filter.connectorLookup]

/-- The condition that every lookup of a mapping holds, in the order of the lookups. -/
def conditionOf (filters : Value) : Except Failure Filter.Group :=
  match filters with
  | .mapping es =>
    if es.any fun e => e.1 ∈ reservedLookups then .error (.shape .wrongArgument)
    else .ok { children :=
      (es.mergeSort fun a b => !(b.1 < a.1)).map fun e => .leaf e.1 e.2 }
  | _ => .error (.shape .wrongArgument)

/-- What is read of rows under a name. -/
def columnReading (m : Model) (name : Value) : Except Failure (String × Reading) :=
  match name with
  | .text name =>
    let reading := do
      let (place, left) ← place? models m (lookupNames name)
      let reading ← Reading.ofPlace? place
      reading.parts? left
    match reading with
    | some reading => .ok (name, reading)
    | none => .error .unknownField
  | v => .error (.shape (v.calling "split"))

/-- What is read of rows: the columns named, each once, or else all columns. -/
def columnReadings (m : Model) (fields : Value) : Except Failure (List (String × Reading)) := do
  let names ← if fields.truthy then fields.elements.mapError .shape else .ok (m.fieldNames.map .text)
  if names.all Value.hashable then (distinct names).mapM (columnReading m)
  else .error (.shape .unhashable)

/-- What is shown of some rows under some names. -/
def showing (columns : List (String × Reading)) (rows : List Joined) :
    Except ColumnFault (List (Entries Value)) := do
  let rows ← columns.foldlM (fun rows c => c.2.reaching rows) rows
  rows.mapM fun row => columns.mapM fun c => (c.2.shown row).map fun v => (c.1, v)

/-- The rows of a table that meet some lookups, with all columns or with those named. -/
def findMany (t : TableName) (filters fields : Value) (db : Database) :
    Except Failure (List (Entries Value)) := do
  let condition ← conditionOf filters
  let test ← testOf models (modelOf t) condition.toCondition
  let columns ← columnReadings (modelOf t) fields
  let all := (tableObjects db t).flatMap (joined [])
  (run test all >>= showing columns).mapError .column

def dataOf : Value → Except Refusal (Entries Value)
  | .mapping es => .ok es
  | _ => .error (.shape .wrongArgument)

/-- Whether all columns of some data are among those named. -/
def knowing (names : List String) (data : Entries Value) : Except Refusal Unit :=
  if data.keys.all names.contains then .ok () else .error (.column .unknownColumn)

/-- The identifier that data give to a row, null when they leave it open. -/
def givenId (data : Entries Value) : Value :=
  (Entries.get? "pk" data).getD ((Entries.get? idName data).getD .null)

def rowFor (t : TableName) (table : Table) (data : Entries Value) : Except ColumnFault Row := do
  if givenId data = .null then newRow t table data
  else
    match ← accept ((idName, givenId data) :: complete t data) with
    | (_, .int id) :: stored =>
      let r : Row := ⟨id, stored⟩
      insertable t table r
      return r
    | _ => .error .refused

/-- Insert a row; the answer holds the data as they were given. -/
def create (t : TableName) (data : Value) (db : Database) :
    Except Refusal (Entries Value) × Database :=
  let table := db.store.tables t
  let tried := do
    let data ← dataOf data
    knowing ("pk" :: (modelOf t).fieldNames) data
    let r ← (rowFor t table data).mapError .column
    return (r, (Row.mk r.id data).toEntries)
  match tried with
  | .ok (r, answer) => (.ok answer, db.setTable t (table.insertRow r))
  | .error e => (.error e, db)

/-- A row with some of its columns changed, which may give it another identifier. -/
def changed (r : Row) (stored : Entries Value) : Row :=
  match Entries.get? idName stored with
  | some (.int id) => ⟨id, Entries.merge r.data (stored.filter fun e => e.1 ≠ idName)⟩
  | _ => ⟨r.id, Entries.merge r.data stored⟩

/-- The table with some columns of the row `id` changed, if it is there. -/
def change (t : TableName) (table : Table) (id : Value) (stored : Entries Value) :
    Except ColumnFault Table :=
  if stored = [] ∨ !ColumnType.fits id then .ok table
  else if !allFit stored then .error .tooLarge
  else match table.rows.find? fun r => Value.int r.id == id with
    | none => .ok table
    | some r =>
      let others := table.rows.filter fun s => s.id ≠ r.id
      let s := changed r stored
      if !stored.all admitted || others.any (clashes t s) then .error .refused
      else .ok { table with rows := table.rows.map fun u => if u.id = r.id then s else u }

/-- Change a row, if it is there; the answer holds the data as they were given. -/
def update (t : TableName) (id data : Value) (db : Database) :
    Except Refusal (Entries Value) × Database :=
  let tried := do
    let found ← (ColumnType.readInteger id).mapError Refusal.column
    let data ← dataOf data
    if data.keys.contains Filter.selfLookup then .error (.shape .wrongArgument)
    knowing (modelOf t).fieldNames data
    let stored ← (readColumns data).mapError Refusal.column
    let table ← (change t (db.store.tables t) found stored).mapError Refusal.column
    return (table, Entries.merge [(idName, id)] data)
  match tried with
  | .ok (table, answer) => (.ok answer, db.setTable t table)
  | .error e => (.error e, db)

def delete (t : TableName) (id : Value) (db : Database) : Except Refusal Unit × Database :=
  match ColumnType.readInteger id with
  | .ok (.int id) => (.ok (), db.setTable t ((db.store.tables t).erase id))
  | .ok _ => (.ok (), db)
  | .error fault => (.error (.column fault), db)

end Database

/-- The addresses of every page by every pattern, and what was reported on the way. -/
def addresses (patterns : List String) (pages : List (Entries Value)) :
    Except PatternError (List (List Pattern.Address)) :=
  pages.mapM fun page => patterns.mapM fun p => Pattern.address p page

end Site
end Sitemap
