/-
Reading along a path is reading part by part.

A value has members: a mapping its entries, any other value its attributes.  A name finds a member that
goes by it, or else one that goes by its attribute name, and finds null where there is neither
(`Finds`).  A list of names leads from a value to what the first name finds in it, and on from there; at
null it stops (`Leads`).  `read` follows the parts of a path in this way, and it follows a path that
is put together from two by following the one and then the other: `reads_along`.

So a field that is read of a related object, and put into its record, is the field that is read of the
object along the longer path.
-/
import Sitemap.Proofs.Record.Writing

namespace Sitemap
namespace Record

variable {v w u : Value} {name : String} {names : List String}

/-- What a value can be asked for by name. -/
def membersOf : Value → Entries Value
  | .mapping es => es
  | v => v.attributes

/-- What a name finds in a value. -/
inductive Finds (v : Value) (name : String) : Value → Prop where
  | written {w : Value} (has : Entries.get? name (membersOf v) = some w) : Finds v name w
  | renamed {w : Value} (lacks : Entries.get? name (membersOf v) = none)
      (has : Entries.get? (attributeName name) (membersOf v) = some w) : Finds v name w
  | missing (lacks : Entries.get? name (membersOf v) = none)
      (lacksToo : Entries.get? (attributeName name) (membersOf v) = none) : Finds v name .null

/-- Where names lead from a value, one after the other. -/
inductive Leads : Value → List String → Value → Prop where
  | here (v : Value) : Leads v [] v
  | stopped (name : String) (names : List String) : Leads .null (name :: names) .null
  | through {v w u : Value} {name : String} {names : List String} (given : v ≠ .null)
      (found : Finds v name w) (onward : Leads w names u) : Leads v (name :: names) u

theorem finds_member (v : Value) (name : String) : Finds v name (member v name) := by
  have looked : member v name = memberOf (membersOf v) name := by cases v <;> rfl
  rw [looked, memberOf]
  cases written : Entries.get? name (membersOf v) with
  | some w => exact .written written
  | none =>
    cases renamed : Entries.get? (attributeName name) (membersOf v) with
    | some w => exact .renamed written renamed
    | none => exact .missing written renamed

theorem Finds.unique (h : Finds v name w) (h' : Finds v name u) : w = u := by
  cases h <;> cases h' <;> grind

theorem leads_foldl (v : Value) (names : List String) : Leads v names (names.foldl member v) := by
  induction names generalizing v with
  | nil => exact .here v
  | cons name names ih =>
    by_cases null : v = .null
    · rw [null, foldl_member_null]
      exact .stopped name names
    · exact .through null (finds_member v name) (ih (member v name))

theorem Leads.unique (h : Leads v names w) (h' : Leads v names u) : w = u := by
  induction h with
  | here v => cases h'; rfl
  | stopped name names =>
    cases h' with
    | stopped => rfl
    | through given => exact absurd rfl given
  | through given found _ ih =>
    cases h' with
    | stopped => exact absurd rfl given
    | through _ found' onward => exact ih (found.unique found' ▸ onward)

theorem leads_iff : Leads v names w ↔ names.foldl member v = w :=
  ⟨fun h => (leads_foldl v names).unique h, fun h => h ▸ leads_foldl v names⟩

/-! ## Paths -/

/-- Names without dots that make up a path. -/
structure Spells (names : List String) (path : String) : Prop where
  some : names ≠ []
  dotless : ∀ name ∈ names, '.' ∉ name.toList
  joined : Text.join "." names = path

theorem spells_parts (path : String) : Spells (Text.parts '.' path) path where
  some := nofun
  dotless name mem := by
    obtain ⟨first, others⟩ := Text.sep_not_mem_splitChars '.' path.toList
    rcases List.mem_cons.mp mem with rfl | mem
    · rwa [Text.split, String.toList_ofList]
    · obtain ⟨part, hpart, rfl⟩ := List.mem_map.mp mem
      rw [String.toList_ofList]
      exact others part hpart
  joined := Text.join_parts '.' path

theorem Spells.parts {path : String} (h : Spells names path) : Text.parts '.' path = names := by
  rw [← h.joined]
  exact Text.parts_join h.some h.dotless

theorem Spells.read_iff {path : String} (h : Spells names path) :
    read v path = w ↔ Leads v names w := by
  rw [leads_iff, read, h.parts]

/-- What a record below a path holds is what is read of the object along the longer path. -/
theorem get?_of_relate {obj : Value} {p q : String} {spec r : Entries Value}
    (related : relate (.mapping spec) (read obj p) = .ok (.mapping r))
    (listed : (fieldsOf spec).elements = .ok (names.map .text)) (asked : q ∈ names)
    (free : q ∉ Entries.keys (relationsOf (populateOf spec))) :
    ∃ w, serialize (read obj (p ++ "." ++ q)) = .ok w ∧ Entries.get? q r = some w := by
  obtain ⟨_, same, held⟩ := relate_cases related
  cases same
  rcases held with ⟨-, none⟩ | ⟨_, _, _, -, many, -⟩ | ⟨-, -, _, one, built⟩
  · cases none
  · cases many
  · cases one
    rw [read_append]
    exact get?_of_build built listed asked free

/-- Reading along a path that is put together from two. -/
structure ReadsAlong (v : Value) (p q : String) : Prop where
  /-- It reads along the one, and from there along the other. -/
  composes : read v (p ++ "." ++ q) = read (read v p) q
  /-- Read by name, the names of the one lead on to where those of the other lead. -/
  leads : ∃ names more, Spells names p ∧ Spells more q ∧ ∀ w,
    (read v p = w ↔ Leads v names w) ∧ (read v (p ++ "." ++ q) = w ↔ Leads v (names ++ more) w)
  /-- A field that is read of one related object is the same, read of the object itself. -/
  populated : ∀ (spec : Entries Value) (names : List String) (r : Entries Value),
    relate (.mapping spec) (read v p) = .ok (.mapping r) →
    (fieldsOf spec).elements = .ok (names.map .text) → q ∈ names →
    q ∉ Entries.keys (relationsOf (populateOf spec)) →
    ∃ w, serialize (read v (p ++ "." ++ q)) = .ok w ∧ Entries.get? q r = some w

/-- Reading along a path can be done in two steps, wherever the path is cut at a dot. -/
theorem reads_along (v : Value) (p q : String) : ReadsAlong v p q where
  composes := read_append v p q
  leads := by
    refine ⟨_, _, spells_parts p, spells_parts q, fun w => ⟨(spells_parts p).read_iff, ?_⟩⟩
    rw [leads_iff, List.foldl_append, read_append, read, read]
  populated _ _ _ related listed asked free := get?_of_relate related listed asked free

/-- A part that is found under its attribute name, and one that is missing behind a text. -/
example :
    let page : Value := .object [("main_category", .mapping [("title", .text "News")])]
    read page "mainCategory.title" = .text "News" ∧ read page "mainCategory.title.en" = .null := by
  decide

end Record
end Sitemap
