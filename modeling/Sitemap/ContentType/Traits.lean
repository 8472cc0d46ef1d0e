/-
What is known of a content type besides its patterns.

Traits say whether pages have drafts, whether they come in several languages, which of their fields
are relations, and whether they can be marked as left out.  A flag is any value and counts by truth.
Traits are given as they are, or read from a value: then flags are truth values, a missing flag is
false, and the mark is taken to be there.
-/
import Sitemap.Value.Members

namespace Sitemap

structure Traits where
  draftAndPublish : Value := .bool false
  localized : Value := .bool false
  /-- The relations, each once; those that are texts are names of fields. -/
  relations : List Value := []
  hasExcludeField : Value := .bool true
  deriving DecidableEq

namespace Traits

def relationNames (t : Traits) : List String := t.relations.filterMap Value.text?

/-- The value of a flag that goes by two names, the first of which wins. -/
def flag (data : Entries Value) (name other : String) (default : Bool) : Value :=
  .bool ((Entries.get? name data).getD ((Entries.get? other data).getD (.bool default))).truthy

/-- The traits that a value describes; a value that counts as not given describes the defaults. -/
def ofValue (v : Value) : Except ShapeFault Traits := do
  let data ← if v.truthy then v.lookedUp else .ok []
  let relations ← ((Entries.get? "relations" data).getD (.list [])).members
  return {
    draftAndPublish := flag data "draftAndPublish" "draft_and_publish" false
    localized := flag data "i18nLocalized" "i18n_localized" false
    relations := relations
    hasExcludeField := flag data "hasExcludeField" "has_exclude_field" true }

/-- Traits as they are given; those left out have the usual values. -/
def ofGiven (given : Entries Value) : Except ShapeFault Traits := do
  let relations ← ((Entries.get? "relations" given).getD (.list [])).members
  let usual : Traits := {}
  return {
    draftAndPublish := (Entries.get? "draft_and_publish" given).getD usual.draftAndPublish
    localized := (Entries.get? "i18n_localized" given).getD usual.localized
    relations := relations
    hasExcludeField := (Entries.get? "has_exclude_field" given).getD usual.hasExcludeField }

inductive Source where
  | given (traits : Traits)
  | described (v : Value)
  deriving DecidableEq

/-- The traits of a source: only null and mappings describe traits. -/
def Source.traits : Source → Except ShapeFault Traits
  | .given t => .ok t
  | .described .null => ofValue .null
  | .described (.mapping es) => ofValue (.mapping es)
  | .described v => .error (.traitsExpected v.typeName)

end Traits

end Sitemap
