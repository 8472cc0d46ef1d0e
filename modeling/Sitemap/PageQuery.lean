/-
The query for the pages of a content type: which pages, which of their fields and which relations.

The relations are populated twice: for the page, and for each of its other language versions, which
are found under `localizations`.  A relation that goes by that name itself takes its place.
-/
import Sitemap.ContentType.Reads
import Sitemap.Failure
import Sitemap.Filter.Visibility

namespace Sitemap

/-- What is read of the records of a relation: some fields, or also the fields of their own
relations. -/
inductive Population where
  | fields (names : List String)
  | nested (names : List String) (relations : Entries (List String))
  deriving DecidableEq

structure PageQuery where
  filters : Filter.Spec
  locale : String := "all"
  fields : List String
  populate : Entries Population
  orderBy : Value

namespace Population

def fieldsValue (names : List String) : Entries Value := [("fields", .texts names)]

def relationsValue (relations : Entries (List String)) : Value :=
  .mapping (relations.map fun r => (r.1, .mapping (fieldsValue r.2)))

def toValue : Population → Value
  | .fields names => .mapping (fieldsValue names)
  | .nested names relations =>
    .mapping (fieldsValue names ++ [("populate", relationsValue relations)])

end Population

namespace PageQuery

/-- The relation under which a page has its other language versions. -/
def localizations : String := "localizations"

/-- What is read of relations: of the language versions all that is read of the page, and of every
relation of the patterns the fields that they read. -/
def populations (fields : List String) (relations : Entries (List String)) : Entries Population :=
  Entries.merge [(localizations, .nested fields relations)]
    (relations.map fun r => (r.1, .fields r.2))

/-- The query for the pages of a content type, or of none.  Null for `pageId` asks for all pages. -/
def build (s : Settings) (c : Option ContentType) (t : Traits) (pageId : Value) :
    Except Failure PageQuery := do
  let fields ← (ContentType.fieldNames { topLevel := true } t.localized.truthy t.relationNames
    c).mapError .pattern
  let relations ← (ContentType.relationFields t.relationNames c).mapError .pattern
  let excludeDrafts := match c with
    | some c => c.excludeDrafts s
    | none => .null
  let filters ← (Filter.visible s t excludeDrafts pageId).mapError .shape
  return {
    filters := filters
    fields := fields
    populate := populations fields relations
    orderBy := s.orderBy }

def ofSource (s : Settings) (c : Option ContentType) (t : Traits.Source) (pageId : Value) :
    Except Failure PageQuery := do
  let traits ← t.traits.mapError .shape
  build s c traits pageId

/-- What is read of relations, as a value. -/
def populateValue (populate : Entries Population) : Value :=
  .mapping (populate.map fun r => (r.1, r.2.toValue))

end PageQuery
end Sitemap
