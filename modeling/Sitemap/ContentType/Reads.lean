/-
What the patterns of a content type read, all languages together.

`fieldNames` answers for a selection of fields, `relationFields` for every relation with the fields
that are read of it.  A name that any language reads a field of counts as a relation in every
language.  The record's own fields are followed by the language, if there is more than one, and by
the time of the last change.
-/
import Sitemap.ContentType
import Sitemap.Failure
import Sitemap.Pattern.Reads
import Sitemap.Value.Members

namespace Sitemap
namespace ContentType

open Pattern

/-- The field that holds the language of a page. -/
def localeField : String := "locale"

/-- The field that holds the time of the last change. -/
def updatedAtField : String := "updatedAt"

/-- The relations that the patterns read fields of, pattern by pattern. -/
def relationsRead (c : ContentType) : Except PatternError (List String) :=
  (c.patterns.mapM relations).map List.flatten

/-- The fields of a selection that the patterns read, where `known` are names of relations. -/
def fieldsRead (sel : Selection) (known : List String) (c : ContentType) :
    Except PatternError (List String) := do
  let found ← c.relationsRead
  let lists ← c.patterns.mapM (fields sel (known ++ found))
  return lists.flatten

/-- The fields that every page has read besides those of the patterns. -/
def standingFields (sel : Selection) (localized : Bool) : List String :=
  if sel.topLevel then (if localized then [localeField] else []) ++ [updatedAtField] else []

/-- The fields of a selection that are read, each once. -/
def fieldNames (sel : Selection) (localized : Bool) (known : List String) :
    Option ContentType → Except PatternError (List String)
  | none => .ok (distinct (standingFields sel localized))
  | some c => (fieldsRead sel known c).map fun names =>
      distinct (names ++ standingFields sel localized)

/-- The fields that are read of one relation. -/
def relationEntry (known : List String) (c : ContentType) (relation : String) :
    Except PatternError (String × List String) :=
  (fieldNames { relation := some relation } false known (some c)).map fun names =>
    (relation, names)

/-- Every relation that is read, with the fields that are read of it. -/
def relationFields (known : List String) :
    Option ContentType → Except PatternError (Entries (List String))
  | none => .ok []
  | some c => do
    let found ← c.relationsRead
    (distinct found).mapM (relationEntry known c)

/-- `fieldNames` with the known relations written as any value, which is looked at when there is a
content type. -/
def fieldNamesKnowing (sel : Selection) (localized : Bool) (known : Value)
    (c : Option ContentType) : Except Failure (List String) := do
  let names ← if c.isSome then known.knownNames.mapError .shape else .ok []
  (fieldNames sel localized names c).mapError .pattern

/-- Whether one of the patterns reads a field of a relation; the patterns after the first one that
does are not scanned. -/
def readsRelation : List String → Except PatternError Bool
  | [] => .ok false
  | p :: ps => do
    let found ← relations p
    if found = [] then readsRelation ps else return true

/-- `relationFields` with the known relations written as any value, which is looked at at the first
pattern that reads a field of a relation. -/
def relationFieldsKnowing (known : Value) (c : Option ContentType) :
    Except Failure (Entries (List String)) := do
  let looked ← match c with
    | some c => (readsRelation c.patterns).mapError .pattern
    | none => .ok false
  let names ← if looked then known.knownNames.mapError .shape else .ok []
  (relationFields names c).mapError .pattern

end ContentType
end Sitemap
