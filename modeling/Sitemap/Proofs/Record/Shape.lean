/-
The shape of a record is that of what is asked for.

Fields and relations decide the keys of a record, whatever the object, and every key holds what is read
of the object: a field its value, a relation null, a list of records or a record.  Each of these records
has in turn the shape of the fields and relations that the specification of the relation asks for.
`Shaped` says this of a record and all records in it, and `shaped_of_build` of every record that is
built.

A relation may be asked for more than once only where the mapping is told entry by entry; the last
entry counts, which is what `Entries.ofPairs` finds.
-/
import Mathlib
import Sitemap.Proofs.Record.Writing

namespace Sitemap
namespace Record

variable {obj fields populated related v : Value} {spec r : Entries Value}

mutual

/-- A record of an object, with the fields and relations that are asked for. -/
inductive Shaped : (obj fields populated : Value) → (r : Entries Value) → Prop where
  | of {obj fields populated : Value} {names : List String} {r : Entries Value}
      (listed : fields.elements = .ok (names.map .text))
      (keys : Entries.keys r = distinct (names ++ Entries.keys (relationsOf populated)))
      (plain : ∀ n ∈ names, n ∉ Entries.keys (relationsOf populated) →
        ∃ v, serialize (read obj n) = .ok v ∧ Entries.get? n r = some v)
      (absent : ∀ n ∈ Entries.keys (relationsOf populated),
        (Entries.get? n r = some .null ↔ read obj n = .null))
      (related : ∀ n spec v, Entries.get? n (Entries.ofPairs (relationsOf populated)) = some spec →
        Entries.get? n r = some v → Relates spec (read obj n) v) :
      Shaped obj fields populated r

/-- What a relation with a specification holds for a related value. -/
inductive Relates : (spec related v : Value) → Prop where
  | nothing {spec : Entries Value} : Relates (.mapping spec) .null .null
  | many {spec : Entries Value} {form : Form} {items : List Value} {records : List (Entries Value)}
      (each : AllShaped (fieldsOf spec) (populateOf spec) items records) :
      Relates (.mapping spec) (.series form items) (.list (records.map .mapping))
  | one {spec r : Entries Value} {related : Value} (given : related ≠ .null)
      (single : ∀ form items, related ≠ .series form items)
      (shaped : Shaped related (fieldsOf spec) (populateOf spec) r) :
      Relates (.mapping spec) related (.mapping r)

/-- One record for each item, in their order. -/
inductive AllShaped : (fields populated : Value) → List Value → List (Entries Value) → Prop where
  | nil {fields populated : Value} : AllShaped fields populated [] []
  | cons {fields populated item : Value} {r : Entries Value} {items : List Value}
      {records : List (Entries Value)} (first : Shaped item fields populated r)
      (rest : AllShaped fields populated items records) :
      AllShaped fields populated (item :: items) (r :: records)

end

/-! ## Below a relation -/

theorem sizeOf_lt_of_mem {n : String} (h : (n, v) ∈ r) : sizeOf v < sizeOf r := by
  have inside := List.sizeOf_lt_of_mem h
  rw [Prod.mk.sizeOf_spec] at inside
  omega

theorem sizeOf_populateOf_le (spec : Entries Value) :
    sizeOf (populateOf spec) ≤ sizeOf (Value.mapping spec) := by
  rw [Value.mapping.sizeOf_spec]
  unfold populateOf
  cases found : Entries.get? "populate" spec with
  | none =>
    show sizeOf Value.null ≤ _
    rw [Value.null.sizeOf_spec]
    omega
  | some below =>
    have inside := sizeOf_lt_of_mem (Entries.mem_of_get? found)
    show sizeOf below ≤ _
    omega

/-- What is asked for below a relation is smaller than what the relation is asked for with. -/
theorem sizeOf_populateOf_lt {n : String}
    (found : Entries.get? n (Entries.ofPairs (relationsOf populated)) = some (.mapping spec)) :
    sizeOf (populateOf spec) < sizeOf populated := by
  have le := sizeOf_populateOf_le spec
  cases populated with
  | mapping relations =>
    have inside : sizeOf (Value.mapping spec) < sizeOf relations :=
      sizeOf_lt_of_mem (Entries.mem_of_get?_ofPairs found)
    rw [Value.mapping.sizeOf_spec relations]
    omega
  | _ => cases found

/-- What holds as soon as it holds of everything asked for below the relations holds always. -/
theorem below_induction {motive : Value → Prop}
    (step : ∀ populated, (∀ n spec,
      Entries.get? n (Entries.ofPairs (relationsOf populated)) = some (.mapping spec) →
        motive (populateOf spec)) → motive populated)
    (populated : Value) : motive populated :=
  step populated fun _ spec _found => below_induction step (populateOf spec)
termination_by sizeOf populated
decreasing_by exact sizeOf_populateOf_lt _found

/-- Records that are built below a relation have the shape of what is asked for there. -/
def ShapesBelow (spec : Entries Value) : Prop :=
  ∀ item r, build item (fieldsOf spec) (populateOf spec) = .ok r →
    Shaped item (fieldsOf spec) (populateOf spec) r

theorem ShapesBelow.all (below : ShapesBelow spec) {items : List Value}
    {records : List (Entries Value)}
    (built : List.Forall₂ (fun item r => build item (fieldsOf spec) (populateOf spec) = .ok r)
      items records) :
    AllShaped (fieldsOf spec) (populateOf spec) items records := by
  induction built with
  | nil => exact .nil
  | cons first _ ih => exact .cons (below _ _ first) ih

theorem relates_of_relate {asked : Value} (below : ∀ spec, asked = .mapping spec → ShapesBelow spec)
    (h : relate asked related = .ok v) : Relates asked related v := by
  obtain ⟨spec, rfl, held⟩ := relate_cases h
  rcases held with ⟨rfl, rfl⟩ | ⟨_, _, _, rfl, rfl, built⟩ | ⟨given, single, _, rfl, built⟩
  · exact .nothing
  · exact .many ((below spec rfl).all built)
  · exact .one given single (below spec rfl _ _ built)

theorem relate_eq_null_iff {asked : Value} (h : relate asked related = .ok v) :
    v = .null ↔ related = .null := by
  obtain ⟨spec, -, held⟩ := relate_cases h
  rcases held with ⟨rfl, rfl⟩ | ⟨_, _, _, rfl, rfl, -⟩ | ⟨given, -, _, rfl, -⟩
  · exact ⟨fun _ => rfl, fun _ => rfl⟩
  · exact ⟨nofun, nofun⟩
  · exact ⟨nofun, fun nothing => absurd nothing given⟩

/-! ## The shape of a record -/

/-- A record has its shape when the records below its relations have theirs. -/
theorem Shaped.of_build
    (below : ∀ n spec,
      Entries.get? n (Entries.ofPairs (relationsOf populated)) = some (.mapping spec) →
      ShapesBelow spec)
    (built : build obj fields populated = .ok r) : Shaped obj fields populated r := by
  obtain ⟨names, listed, keys⟩ := exists_names_of_build built
  have held := populated_of_build built
  refine .of listed keys (fun n asked free => get?_of_build built listed asked free) ?absent ?related
  case absent =>
    intro n asked
    have mem : n ∈ Entries.keys (Entries.ofPairs (relationsOf populated)) :=
      Entries.mem_keys_merge.mpr (.inr asked)
    obtain ⟨spec, found⟩ := Option.isSome_iff_exists.mp (Entries.get?_isSome_iff.mpr mem)
    obtain ⟨v, made, got⟩ := held n spec found
    rw [got, Option.some.injEq]
    exact relate_eq_null_iff made
  case related =>
    intro n spec v found got
    obtain ⟨w, made, got'⟩ := held n spec found
    obtain rfl : w = v := Option.some.inj (got'.symm.trans got)
    exact relates_of_relate (fun es same => below n es (same ▸ found)) made

/-- Every record that is built has the shape of the fields and relations that were asked for. -/
theorem shaped_of_build (built : build obj fields populated = .ok r) :
    Shaped obj fields populated r := by
  induction populated using below_induction generalizing obj fields r with
  | step populated ih =>
    exact .of_build (fun n spec found _ _ below => ih n spec found below) built

/-- A collection with relations of every kind: none, one, one that is no object, and many. -/
def anthology : Value := .object [("title", .text "Essays"), ("published_at", .literal .date "2024-05-01"),
  ("editor", .null), ("publisher", .text "North"),
  ("chapters", .series .related [
    .object [("title", .text "One"), ("author", .object [("name", .text "Ada"), ("pk", .int 7)])],
    .mapping [("title", .text "Two"), ("author", .null)]])]

def namesOnly : Value := .mapping [("fields", .texts ["name"])]

/-- A field that comes twice, one that is populated too, and relations two deep. -/
def anthologyFields : Value := .texts ["title", "publishedAt", "chapters", "title"]

def anthologyRelations : Value := .mapping [("editor", namesOnly), ("publisher", namesOnly),
  ("chapters", .mapping [("fields", .series .tuple [.text "title"]),
    ("populate", .mapping [("author", namesOnly)])])]

def anthologyRecord : Entries Value := [("title", .text "Essays"), ("publishedAt", .text "2024-05-01"),
  ("chapters", .list [
    .mapping [("title", .text "One"), ("author", .mapping [("name", .text "Ada")])],
    .mapping [("title", .text "Two"), ("author", .null)]]),
  ("editor", .null), ("publisher", .mapping [("name", .null)])]

theorem shaped_of_anthology :
    build anthology anthologyFields anthologyRelations = .ok anthologyRecord ∧
      Shaped anthology anthologyFields anthologyRelations anthologyRecord := by
  have built : build anthology anthologyFields anthologyRelations = .ok anthologyRecord := by cbv
  exact ⟨built, shaped_of_build built⟩

end Record
end Sitemap
