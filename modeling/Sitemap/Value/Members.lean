/-
Sets written as values.

Any value that holds values can be taken for a set, as long as each of them can be the member of
one.  Of values that are alike the first counts.
-/
import Sitemap.Distinct
import Sitemap.Value.Equality
import Sitemap.Value.Shape

namespace Sitemap
namespace Value

def members (v : Value) : Except ShapeFault (List Value) := do
  let items ← v.elements
  if items.all hashable then return distinctBy alike items else .error .unhashable

/-- The texts among the members of a set. -/
def nameSet (v : Value) : Except ShapeFault (List String) :=
  v.members.map (·.filterMap text?)

/-- A list of names is taken for the names, each once. -/
theorem nameSet_texts (names : List String) : (texts names).nameSet = .ok (distinct names) := by
  have same (a b : String) : alike (.text a) (.text b) = decide (a = b) := by
    simp [alike, solitary, canonical]
  have kept (names : List String) :
      distinctBy alike (names.map .text) = (distinct names).map .text := by
    induction names with
    | nil => rfl
    | cons a names ih =>
      rw [List.map_cons, distinctBy, ih, distinct, List.map_cons, List.filter_map]
      congr 2
      exact List.filter_congr fun b _ => by simp [same, eq_comm]
  have members : (texts names).members = .ok ((distinct names).map .text) := by
    have hashable : (names.map Value.text).all hashable = true := by simp [hashable]
    show (if (names.map Value.text).all Value.hashable then _ else _) = _
    rw [if_pos hashable, kept]
    rfl
  show (texts names).members.map _ = _
  rw [members]
  show Except.ok (((distinct names).map Value.text).filterMap text?) = _
  rw [List.filterMap_map]
  exact congrArg Except.ok List.filterMap_some

/-- The names of known relations; a value that counts as not given names none. -/
def knownNames (v : Value) : Except ShapeFault (List String) :=
  if v.truthy then v.nameSet else .ok []

end Value
end Sitemap
