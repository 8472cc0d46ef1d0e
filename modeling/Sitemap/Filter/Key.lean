/-
Keys of filter specifications.

A key is a dotted field path, whose last part may name an operator.  A path of one part is a field
even when it has the name of an operator.  Dots become double underscores in the lookup of a key.
-/
import Sitemap.Text.Split
import Sitemap.Value.Shape

namespace Sitemap
namespace Filter

/-- The operators that a key can end in. -/
def operators : List String :=
  ["lt", "lte", "gt", "gte", "exact", "iexact", "in", "isnull", "contains", "icontains",
    "startswith", "endswith"]

/-- A field path and the operator asked of it. -/
structure Key where
  path : String
  operator : Option String
  deriving DecidableEq, Repr

namespace Key

/-- The last of a list of parts and those before it. -/
def splitLast (first : String) : List String → List String × String
  | [] => ([], first)
  | part :: rest => (first :: (splitLast part rest).1, (splitLast part rest).2)

def ofText (s : String) : Key :=
  let (first, rest) := Text.split '.' s
  let (before, last) := splitLast first rest
  if rest ≠ [] ∧ last ∈ operators then ⟨Text.join "__" before, some last⟩
  else ⟨Text.join "__" (first :: rest), none⟩

def ofValue (v : Value) : Except ShapeFault Key := (v.textBy "split").map ofText

def lookup (k : Key) : String :=
  match k.operator with
  | some op => k.path ++ "__" ++ op
  | none => k.path

end Key
end Filter
end Sitemap
