/-
The operations of the store.

Creating a row replaces the rows of its key.  An update changes a cache only if there is one.  A
deletion takes every part of a document.
-/
import Sitemap.Notice
import Sitemap.Store.Table

namespace Sitemap
namespace Store

inductive Operation where
  | createSitemap (body name delta : Value)
  | getSitemap (name delta : Value)
  | deleteSitemap (name : Value)
  | createCache (json name : Value)
  | updateCache (json name : Value)
  | getCache (name : Value)
  deriving DecidableEq

namespace Operation

/-- The key of the rows that the operation is about, unless it is about all parts of a document. -/
def key? : Operation → Option Key
  | .createSitemap _ name delta => some (.sitemap name delta)
  | .getSitemap name delta => some (.sitemap name delta)
  | .deleteSitemap _ => none
  | .createCache _ name => some (.cache name)
  | .updateCache _ name => some (.cache name)
  | .getCache name => some (.cache name)

/-- The columns that the operation writes. -/
def data : Operation → Entries Value
  | .createSitemap body name delta => [("sitemap_string", body), ("name", name), ("delta", delta)]
  | .createCache json name | .updateCache json name => [("sitemap_json", json), ("name", name)]
  | _ => []

/-- What is reported when the operation has written a row. -/
def notice? : Operation → Option Notice
  | .createSitemap _ name delta => some (.storedSitemap name delta)
  | .createCache _ name => some (.storedCache name)
  | .updateCache _ name => some (.updatedCache name)
  | _ => none

end Operation
end Store
end Sitemap
