/-
Page records: the fields and relations of an object as a mapping.

The fields come first, each with its value in the form in which it is handed on; then the relations
that are to be populated.  A relation without a value is null, one with many values a list of
records, one with a single value a record, each built by the relation's own fields and relations.

What to read is given as values, and is looked at only as far as it is needed: the fields of a
relation are read when there is a record to build with them.
-/
import Sitemap.Record.Lookup
import Sitemap.Value.Display
import Sitemap.Value.Shape

namespace Sitemap
namespace Record

/-- A value in the form in which a record hands it on: dates and times by their spelling,
identifiers too, and an object that is identified by its key. -/
def serialize : Value → Except ShapeFault Value
  | .literal .date s | .literal .dateTime s | .literal .time s | .literal .uuid s => .ok (.text s)
  | .object attributes =>
    if (Entries.get? "isoformat" attributes).isSome then .error .notCallable
    else if (Entries.get? "hex" attributes).isSome then
      .ok (.text (Value.object attributes).display)
    else match Entries.get? "pk" attributes with
      | some key => .ok (.text key.display)
      | none => .ok (.object attributes)
  | v => .ok v

def putField (obj : Value) (r : Entries Value) (name : Value) :
    Except ShapeFault (Entries Value) :=
  match name with
  | .text field => (serialize (read obj field)).map fun v => Entries.put field v r
  | v => .error (v.calling "split")

def ofFields (obj fields : Value) : Except ShapeFault (Entries Value) := do
  let names ← fields.elements
  names.foldlM (putField obj) []

mutual

/-- Put the relations of an object into its record. -/
def populate : Value → Value → Entries Value → Except ShapeFault (Entries Value)
  | .mapping relations, obj, r => populateEach relations obj r
  | v, _, r => if v.truthy then .error (v.calling "items") else .ok r

def populateEach : List (String × Value) → Value → Entries Value →
    Except ShapeFault (Entries Value)
  | [], _, r => .ok r
  | (relation, spec) :: rest, obj, r => do
    let v ← relate spec (read obj relation)
    populateEach rest obj (Entries.put relation v r)

def relate : Value → Value → Except ShapeFault Value
  | .mapping spec, related =>
    let one (item : Value) : Except ShapeFault (Entries Value) := do
      let r ← ofFields item ((Entries.get? "fields" spec).getD (.list []))
      populateNested spec item r
    match related with
    | .null => .ok .null
    | .series _ items => do
      let records ← items.mapM one
      return .list (records.map .mapping)
    | .object attributes =>
      if (Entries.get? "all" attributes).isSome then .error .notCallable
      else (one (.object attributes)).map .mapping
    | v => (one v).map .mapping
  | v, _ => .error (v.calling "get")

/-- Put the relations that a relation's specification asks for into the record of one of its
objects. -/
def populateNested : List (String × Value) → Value → Entries Value →
    Except ShapeFault (Entries Value)
  | [], _, r => .ok r
  | (key, v) :: rest, obj, r =>
    if key = "populate" then populate v obj r else populateNested rest obj r

end

def build (obj fields relations : Value) : Except ShapeFault (Entries Value) := do
  let r ← ofFields obj fields
  populate relations obj r

end Record
end Sitemap
