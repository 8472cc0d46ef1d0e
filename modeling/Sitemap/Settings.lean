/-
The settings that page queries depend on.

Every setting has a default.  `Settings.ofUser` reads the settings a user gave; a setting that is
given counts even when it is null.  `Settings.defaults` lists all names with their defaults.  The
names of fields may be settings of any kind: they are used as they are where a field is looked for,
and written out where they are part of a longer key.
-/
import Sitemap.Entries
import Sitemap.Value

namespace Sitemap

structure Settings where
  /-- The content types by name, as they were written. -/
  contentTypes : Value := .mapping []
  /-- Whether drafts are left out when a content type does not say. -/
  excludeDrafts : Value := .bool true
  /-- The field that marks a page as left out. -/
  excludeField : Value := .text "sitemap_exclude"
  /-- The field that a published page has filled in. -/
  publishedField : Value := .text "published_at"
  /-- The field that identifies a page. -/
  idField : Value := .text "id"
  orderBy : Value := .text "id"
  pageSize : Value := .int 100

namespace Settings

def defaults : Entries Value :=
  [("CONTENT_TYPES", .mapping []), ("EXCLUDE_DRAFTS", .bool true),
    ("EXCLUDE_FIELD", .text "sitemap_exclude"), ("PUBLISHED_FIELD", .text "published_at"),
    ("ID_FIELD", .text "id"), ("ORDER_BY", .text "id"), ("PAGE_SIZE", .int 100)]

def lookup (defaults user : Entries Value) (name : String) : Value :=
  (Entries.get? name user).getD ((Entries.get? name defaults).getD .null)

def ofUser (user : Entries Value) : Settings where
  contentTypes := lookup defaults user "CONTENT_TYPES"
  excludeDrafts := lookup defaults user "EXCLUDE_DRAFTS"
  excludeField := lookup defaults user "EXCLUDE_FIELD"
  publishedField := lookup defaults user "PUBLISHED_FIELD"
  idField := lookup defaults user "ID_FIELD"
  orderBy := lookup defaults user "ORDER_BY"
  pageSize := lookup defaults user "PAGE_SIZE"

/-- A user who gave no settings has the defaults. -/
theorem ofUser_nil : ofUser [] = {} := rfl

end Settings
end Sitemap
