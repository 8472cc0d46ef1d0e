/-
All content types of a site, by name.

The catalogue is read as a whole: one entry that is no content type spoils it.  Names and order are
those of the mapping it is read from.
-/
import Sitemap.Failure

namespace Sitemap
namespace ContentType

/-- A name with the content type that its value describes. -/
def readEntry (e : String × Value) : Except ConfigError (String × ContentType) :=
  (ofValue (.text e.1) e.2).map fun c => (e.1, c)

/-- The content types that a mapping describes. -/
def readAll (entries : Entries Value) : Except ConfigError (Entries ContentType) :=
  entries.mapM readEntry

/-- The content types that a value describes; null stands for those of the settings. -/
def catalogue (s : Settings) (raw : Value) : Except Failure (Entries ContentType) := do
  let source := if raw = .null then s.contentTypes else raw
  let entries ← source.entries.mapError .shape
  (readAll entries).mapError .config

def find? (s : Settings) (raw : Value) (name : String) : Except Failure (Option ContentType) :=
  (catalogue s raw).map (Entries.get? name)

/-- The content type of any value as a name: only texts are names, and only what can be a key is
looked for. -/
def findBy? (s : Settings) (raw name : Value) : Except Failure (Option ContentType) :=
  match name with
  | .text name => find? s raw name
  | name => do
    let _ ← catalogue s raw
    if name.hashable then return none else .error (.shape .unhashable)

end ContentType
end Sitemap
