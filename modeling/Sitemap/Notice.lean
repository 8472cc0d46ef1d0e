/-
The log: one line per notice, with its level in front.
-/
import Sitemap.Value.Display

namespace Sitemap

/-- What is reported while the library works. -/
inductive Notice where
  /-- A token reads a field of a relation that holds many records. -/
  | manyRecords (path relation : String)
  /-- A batch of pages was read. -/
  | fetched (count : Nat) (model : String) (offset : Value)
  | storedSitemap (name delta : Value)
  | deletedSitemaps (count : Nat) (name : Value)
  | storedCache (name : Value)
  | updatedCache (name : Value)
  deriving DecidableEq

def Notice.line : Notice → String
  | .manyRecords path relation =>
    s!"ERROR Cannot resolve '{path}': relation '{relation}' holds multiple records"
  | .fetched count model offset =>
    s!"DEBUG Fetched {count} pages of {model} at offset {offset.display}"
  | .storedSitemap name delta => s!"INFO Stored sitemap '{name.display}' (delta {delta.display})"
  | .deletedSitemaps count name => s!"INFO Deleted {count} sitemap(s) '{name.display}'"
  | .storedCache name => s!"INFO Stored sitemap cache '{name.display}'"
  | .updatedCache name => s!"INFO Updated sitemap cache '{name.display}'"

end Sitemap
