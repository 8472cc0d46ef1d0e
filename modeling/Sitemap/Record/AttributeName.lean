/-
Attribute names of fields.

A field that is written with inner capitals, such as `updatedAt`, is stored under the name in lower
case with an underscore before each of them, `updated_at`.  Only the capitals of ASCII get an
underscore, and a first capital gets none.
-/
import Sitemap.Text.Lowercase
import Sitemap.Value.Shape

namespace Sitemap
namespace Record

/-- An underscore before every ASCII capital. -/
def spread : List Char → List Char
  | [] => []
  | c :: cs => if c.isUpper then '_' :: c :: spread cs else c :: spread cs

/-- An underscore before every ASCII capital but a first character. -/
def spreadInner : List Char → List Char
  | [] => []
  | c :: cs => c :: spread cs

def attributeName (field : String) : String :=
  Text.lower (String.ofList (spreadInner field.toList))

/-- The attribute name of a field written as any value, which has to be a text. -/
def attributeNameOf : Value → Except ShapeFault String
  | .text field => .ok (attributeName field)
  | _ => .error .wrongArgument

end Record
end Sitemap
