/-
Models: the kinds of row that pages are read from, with their fields.

A field with a column is stored in the row.  A field that points to another model is a relation,
unless it was made for the other side of one.
-/
import Sitemap.ContentType.Traits
import Sitemap.Entries
import Sitemap.Settings
import Sitemap.Text.Lowercase

namespace Sitemap

structure Field where
  name : String
  /-- Where the field is stored; a value that counts as not given stands for nowhere. -/
  column : Value := .null
  /-- The name of the model that the field points to. -/
  related : Option String := none
  /-- Whether the field was made for the other side of a relation. -/
  automatic : Bool := false
  deriving DecidableEq

def Field.stored (f : Field) : Bool := f.column.truthy

structure Model where
  name : String
  fields : List Field
  deriving DecidableEq

namespace Model

def fieldNames (m : Model) : List String := (m.fields.filter Field.stored).map Field.name

/-- A relation with the name of the model it points to. -/
def relationOf? (f : Field) : Option (String × String) :=
  match f.related with
  | some target => if f.automatic then none else some (f.name, target)
  | none => none

/-- The relations with the names of the models they point to. -/
def relations (m : Model) : Entries String := Entries.ofPairs (m.fields.filterMap relationOf?)

/-- Whether the name of the model is `name` when case does not count. -/
def isNamed (name : String) (m : Model) : Bool := Text.lower m.name == Text.lower name

/-- Whether a value is the name of a stored field.  Only what can be the member of a set is looked
for. -/
def stores (m : Model) (field : Value) : Except ShapeFault Bool :=
  match field with
  | .text name => .ok (m.fieldNames.contains name)
  | v => if v.hashable then .ok false else .error .unhashable

/-- The traits of pages read from the model. -/
def traits (s : Settings) (m : Model) : Except ShapeFault Traits := do
  let published ← m.stores s.publishedField
  let excluded ← m.stores s.excludeField
  return {
    draftAndPublish := .bool published
    localized := .bool (m.fieldNames.contains "locale")
    relations := m.relations.keys.map .text
    hasExcludeField := .bool excluded }

end Model

abbrev Schema := List Model

namespace Schema

def find? (schema : Schema) (name : String) : Option Model := List.find? (·.name == name) schema

/-- The stored fields of the model of a name. -/
def fieldNames (schema : Schema) (name : String) : List String :=
  match find? schema name with
  | some m => m.fieldNames
  | none => []

/-- The paths that a pattern for the model may read: its own stored fields that are no relations,
and the stored fields of the models it relates to. -/
def allowedPaths (schema : Schema) (m : Model) : List String :=
  m.fieldNames.filter (fun f => !m.relations.keys.contains f)
    ++ m.relations.flatMap fun r => (schema.fieldNames r.2).map fun f => r.1 ++ "." ++ f

end Schema
end Sitemap
