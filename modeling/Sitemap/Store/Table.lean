/-
The two tables of the store, and the keys of their rows.

A row has an identifier, given out once and never again, and data by column.  The key of a sitemap
document is its name and part number, that of a cache its name.  Two keys are the same when their
values are alike, so that one number has one key however it is written; a key with a value that is
like nothing is the same as no key.  Only a key whose values can be members of a set can be locked.
-/
import Sitemap.Entries
import Sitemap.Value.Equality
import Sitemap.Value.Shape

namespace Sitemap
namespace Store

inductive TableName where
  | sitemaps
  | caches
  deriving DecidableEq, Repr

structure Row where
  id : Int
  data : Entries Value
  deriving DecidableEq

/-- The row as one mapping, with the identifier first. -/
def Row.toEntries (r : Row) : Entries Value := Entries.merge [("id", .int r.id)] r.data

def Row.column (r : Row) (name : String) : Value := (Entries.get? name r.data).getD .null

structure Table where
  rows : List Row := []
  /-- Above all identifiers given out. -/
  nextId : Int := 1
  deriving DecidableEq

namespace Table

/-- The identifier of the next row: above all that were given out, and above those of all rows. -/
def newId (t : Table) : Int := t.rows.foldl (fun n r => max n (r.id + 1)) t.nextId

theorem foldl_max_le (rows : List Row) (n : Int) :
    n ≤ rows.foldl (fun n r => max n (r.id + 1)) n ∧
      ∀ r ∈ rows, r.id < rows.foldl (fun n r => max n (r.id + 1)) n := by
  induction rows generalizing n with
  | nil => simp
  | cons r rows ih =>
    obtain ⟨h, hr⟩ := ih (max n (r.id + 1))
    refine ⟨by simp only [List.foldl_cons]; omega, fun s hs => ?_⟩
    rcases List.mem_cons.mp hs with rfl | hs
    · simp only [List.foldl_cons]; omega
    · exact hr s hs

/-- No identifier is given out twice. -/
theorem nextId_le_newId (t : Table) : t.nextId ≤ t.newId := (foldl_max_le t.rows t.nextId).1

/-- A new row has an identifier of its own. -/
theorem lt_newId {t : Table} {r : Row} (h : r ∈ t.rows) : r.id < t.newId :=
  (foldl_max_le t.rows t.nextId).2 r h

/-- The row that an insertion adds. -/
def newRow (data : Entries Value) (t : Table) : Row := ⟨t.newId, data⟩

/-- Insert a row with an identifier of its own. -/
def insertRow (r : Row) (t : Table) : Table := ⟨t.rows ++ [r], max t.nextId (r.id + 1)⟩

def insert (data : Entries Value) (t : Table) : Table := t.insertRow (t.newRow data)

def erase (id : Int) (t : Table) : Table := { t with rows := t.rows.filter fun r => r.id ≠ id }

/-- Put the columns of `data` into the row of an identifier. -/
def update (id : Int) (data : Entries Value) (t : Table) : Table :=
  { t with rows := t.rows.map fun r => if r.id = id then ⟨id, Entries.merge r.data data⟩ else r }

def find? (id : Int) (t : Table) : Option Row := t.rows.find? fun r => r.id = id

end Table

inductive Key where
  | sitemap (name delta : Value)
  | cache (name : Value)
  deriving DecidableEq

namespace Key

def table : Key → TableName
  | .sitemap _ _ => .sitemaps
  | .cache _ => .caches

/-- Whether two keys are the same. -/
def meets : Key → Key → Bool
  | .sitemap name delta, .sitemap name' delta' => name.alike name' && delta.alike delta'
  | .cache name, .cache name' => name.alike name'
  | _, _ => false

def lockable : Key → Bool
  | .sitemap name delta => name.hashable && delta.hashable
  | .cache name => name.hashable

theorem meets_symm {k l : Key} (h : k.meets l = true) : l.meets k = true := by
  cases k <;> cases l <;> simp_all [meets, Value.alike_symm]

theorem meets_trans {k l m : Key} (h : k.meets l = true) (h' : l.meets m = true) :
    k.meets m = true := by
  cases k <;> cases l <;> simp only [meets, Bool.and_eq_true, Bool.false_eq_true] at h <;>
    cases m <;> simp only [meets, Bool.and_eq_true, Bool.false_eq_true] at h' ⊢
  · exact ⟨Value.alike_trans h.1 h'.1, Value.alike_trans h.2 h'.2⟩
  · exact Value.alike_trans h h'

/-- The same keys belong to the same table. -/
theorem table_eq_of_meets {k l : Key} (h : k.meets l = true) : k.table = l.table := by
  cases k <;> cases l <;> simp_all [meets, table]

end Key

def Row.key (r : Row) : TableName → Key
  | .sitemaps => .sitemap (r.column "name") (r.column "delta")
  | .caches => .cache (r.column "name")

namespace Table

def ofKey (k : Key) (t : Table) : List Row := t.rows.filter fun r => (r.key k.table).meets k

def ofName (name : Value) (t : Table) : List Row :=
  t.rows.filter fun r => (r.column "name").alike name

end Table
end Store
end Sitemap
