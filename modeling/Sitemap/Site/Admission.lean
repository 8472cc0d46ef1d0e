/-
What the tables of the store take.

A table has typed columns.  Columns are read before a row is written: what cannot be read is refused
first, then what does not fit, then what the table does not admit.  A row must have all its columns
filled in, a part number may not be negative, a document has to be one that can be written down, and
two rows may not have one key or one identifier.  Columns that are left out get their usual values;
every row has the times at which it was written.
-/
import Sitemap.Site.Content
import Sitemap.Store.Perform

namespace Sitemap
namespace Site

open Store

def modelOf : TableName → Model
  | .sitemaps => sitemapModel
  | .caches => cacheModel

/-- The columns that are written to a table, with the values they have when they are left out. -/
def columnDefaults : TableName → Entries Value
  | .sitemaps => [("name", .text ""), ("delta", .int 1), ("sitemap_string", .text "")]
  | .caches => [("name", .text ""), ("sitemap_json", .mapping [])]

/-- Data with the columns that it leaves out. -/
def complete (t : TableName) (data : Entries Value) : Entries Value :=
  (columnDefaults t).map fun e => (e.1, (Entries.get? e.1 data).getD e.2)

/-- Columns in the form in which they are stored. -/
def readColumns (data : Entries Value) : Except ColumnFault (Entries Value) :=
  data.mapM fun e => (readColumn e.1 e.2).map fun v => (e.1, v)

/-- Whether a column admits a value that has been read. -/
def admitted (e : String × Value) : Bool :=
  match e.2 with
  | .null => false
  | .int n => !(e.1 == "delta" && n < 0)
  | v => ColumnType.sound v

/-- Whether columns that have been read fit; a document does, whatever numbers are in it. -/
def allFit (stored : Entries Value) : Bool :=
  stored.all fun e => columnType? e.1 = some .document || ColumnType.fits e.2

/-- Columns as a table holds them. -/
def accept (data : Entries Value) : Except ColumnFault (Entries Value) := do
  let stored ← readColumns data
  if !allFit stored then .error .tooLarge
  else if stored.all admitted then return stored
  else .error .refused

def clashes (t : TableName) (r s : Row) : Bool := r.id == s.id || (r.key t).meets (s.key t)

/-- Whether a row can be added to a table. -/
def insertable (t : TableName) (table : Table) (r : Row) : Except ColumnFault Unit :=
  if !ColumnType.fits (.int r.id) then .error .exhausted
  else if table.rows.any (clashes t r) then .error .refused
  else .ok ()

/-- The row that is added for some data, with an identifier of its own. -/
def newRow (t : TableName) (table : Table) (data : Entries Value) : Except ColumnFault Row := do
  let r := table.newRow (← accept (complete t data))
  insertable t table r
  return r

/-- Why a call is refused. -/
def callFault? (s : State) (c : Call) : Option ColumnFault :=
  let tried : Except ColumnFault Unit :=
    match c.kind with
    | .create => (newRow c.table (s.tables c.table) c.data).map fun _ => ()
    | .update => (accept c.data).map fun _ => ()
    | .find | .delete => .ok ()
  match tried with
  | .ok _ => none
  | .error fault => some fault

/-- The environment of the database: what its tables do not take is refused. -/
def constrained : Environment Unit where
  judge _ s c := ((callFault? s c).map .column, ())

def storedColumn (t : TableName) (r : Row) (name : String) : Value :=
  if name = "id" then .int r.id
  else (Entries.get? name r.data).getD ((Entries.get? name (columnDefaults t)).getD writtenAt)

def rowColumns (t : TableName) (r : Row) : Entries Value :=
  (modelOf t).fieldNames.map fun name => (name, storedColumn t r name)

/-- A stored row as the object that a page is built from. -/
def rowObject (t : TableName) (r : Row) : Value :=
  .object (rowColumns t r ++ [("pk", .int r.id)])

/-- The rows of a table in the order of their identifiers. -/
def rowsById (table : Table) : List Row := table.rows.mergeSort fun r s => r.id ≤ s.id

end Site
end Sitemap
