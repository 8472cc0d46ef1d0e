/-
Reading a value by a dotted path.

Each part of the path is looked up as it is written, then as an attribute name: in a mapping among
its keys, in another value among its attributes.  A part that is missing reads as null.
-/
import Sitemap.Entries
import Sitemap.Record.AttributeName
import Sitemap.Record.Attributes
import Sitemap.Text.Split
import Sitemap.Value.Shape

namespace Sitemap
namespace Record

/-- The member of a name: as it is written, else by its attribute name, else null. -/
def memberOf (es : Entries Value) (part : String) : Value :=
  (Entries.get? part es).getD ((Entries.get? (attributeName part) es).getD .null)

def member (v : Value) (part : String) : Value :=
  match v with
  | .mapping es => memberOf es part
  | v => memberOf v.attributes part

/-- The value at the end of a dotted path. -/
def read (v : Value) (path : String) : Value := (Text.parts '.' path).foldl member v

/-- There is nothing behind null. -/
theorem foldl_member_null (parts : List String) : parts.foldl member .null = .null := by
  induction parts with
  | nil => rfl
  | cons part parts ih => exact ih

theorem read_null (path : String) : read .null path = .null := foldl_member_null _

/-- The value at the end of a path written as any value. -/
def readPath (v path : Value) : Except ShapeFault Value := (path.textBy "split").map (read v)

/-- Reading a path in two halves is reading it at once. -/
theorem read_append (v : Value) (p q : String) :
    read v (p ++ "." ++ q) = read (read v p) q := by
  have h := Text.parts_append '.' p q
  rw [show String.singleton '.' = "." from rfl] at h
  rw [read, h, List.foldl_append]
  rfl

end Record
end Sitemap
