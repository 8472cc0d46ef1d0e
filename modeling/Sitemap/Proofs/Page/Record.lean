/-
What the record of a page holds of its relations.

Every relation that is populated is there with what was made of it, and takes the place of a field of
its name.  Where a pattern reads fields of a relation, these are all that its specification asks for.
-/
import Sitemap.Proofs.Page.Reading
import Sitemap.Proofs.Record.Writing

namespace Sitemap
namespace Record

variable {obj : Value} {r : Entries Value}

open PageQuery in
theorem keys_relationsOf_populateValue (relations : Entries Population) :
    Entries.keys (relationsOf (populateValue relations)) = Entries.keys relations :=
  Entries.keys_map Population.toValue relations

open PageQuery in
/-- A relation that is populated holds what is made of it. -/
theorem exists_relate_of_build {obj fields : Value} {relations : Entries Population}
    (own : (Entries.keys relations).Nodup)
    (built : build obj fields (populateValue relations) = .ok r) {n : String} {p : Population}
    (asked : Entries.get? n relations = some p) :
    ∃ v, relate p.toValue (read obj n) = .ok v ∧ Entries.get? n r = some v := by
  have found : Entries.get? n (relationsOf (populateValue relations)) = some p.toValue := by
    have mapped := Entries.get?_map Population.toValue relations n
    rwa [asked] at mapped
  have held := populated_of_build built
  rw [Entries.ofPairs_of_nodup (by rw [keys_relationsOf_populateValue]; exact own)] at held
  exact held n _ found

/-- Whether a value stands for many. -/
def isMany : Value → Bool
  | .series _ _ => true
  | _ => false

theorem isMany_eq_false {v : Value} (h : ∀ form items, v ≠ .series form items) :
    isMany v = false := by
  cases v with
  | series form items => exact absurd rfl (h form items)
  | _ => rfl

theorem fieldsOf_fieldsValue (names : List String) (more : Entries Value) :
    fieldsOf (Population.fieldsValue names ++ more) = .texts names := by
  simp [fieldsOf, Population.fieldsValue, Entries.get?]

theorem populateOf_fieldsValue (names : List String) (more : Entries Value) :
    populateOf (Population.fieldsValue names ++ more) = populateOf more := by
  simp [populateOf, Population.fieldsValue, Entries.get?]

theorem of_relate {names : List String} {related v : Value}
    (h : relate (Population.toValue (.fields names)) related = .ok v) :
    (related = .null ∧ v = .null) ∨ (isMany related = true ∧ ∃ items, v = .list items) ∨
      (isMany related = false ∧ ∃ es, v = .mapping es ∧ ofFields related (.texts names) = .ok es) := by
  obtain ⟨spec, same, held⟩ := relate_cases h
  obtain rfl : Population.fieldsValue names ++ [] = spec := by
    rw [List.append_nil]
    exact Value.mapping.inj same
  rw [fieldsOf_fieldsValue, populateOf_fieldsValue] at held
  rcases held with absent | ⟨form, items, records, rfl, rfl, -⟩ | ⟨-, single, record, rfl, built⟩
  · exact .inl absent
  · exact .inr (.inl ⟨rfl, _, rfl⟩)
  · obtain ⟨es, fields, populated⟩ := exists_of_bind built
    -- A specification of fields alone asks for no relations.
    have last : populateEach [] related es = .ok record := populateEach_of_populate populated
    rw [populateEach] at last
    cases last
    exact .inr (.inr ⟨isMany_eq_false single, _, rfl, fields⟩)

end Record
end Sitemap
