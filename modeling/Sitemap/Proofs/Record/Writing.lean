/-
What is put into a record.

The fields of an object are put in first, each with what is read of the object, and then its relations,
each with what is made of the related value.  So the keys are the names of the fields and of the
relations in the order in which they first come, and a relation takes the place of a field of its name.

A relation is null when there is nothing related.  Of several objects it has a list with the record of
each, and of a single one the record, built with the fields and the relations that the specification of
the relation asks for: `relate_cases`.
-/
import Sitemap.Distinct
import Sitemap.Proofs.Outcome
import Sitemap.Record.Build

namespace Sitemap

theorem Entries.keys_put_eq_distinct {β : Type} {es : Entries β} (own : (Entries.keys es).Nodup)
    (k : String) (v : β) : Entries.keys (Entries.put k v es) = distinct (Entries.keys es ++ [k]) := by
  rw [Entries.keys_put, distinct_append, distinct_of_nodup own]
  by_cases h : k ∈ Entries.keys es <;> simp [distinct, h]

namespace Record

variable {obj fields populated spec related v : Value} {relations r r' : Entries Value}
  {names : List String}

/-- The relations that a value asks for, which are none unless it is a mapping. -/
def relationsOf : Value → Entries Value
  | .mapping relations => relations
  | _ => []

/-- The fields that the specification of a relation asks for. -/
def fieldsOf (spec : Entries Value) : Value := (Entries.get? "fields" spec).getD (.list [])

/-- What the specification of a relation asks for below it. -/
def populateOf (spec : Entries Value) : Value := (Entries.get? "populate" spec).getD .null

/-! ## Fields -/

theorem exists_names_of_foldlM {vs : List Value} (h : vs.foldlM (putField obj) r = .ok r') :
    ∃ names : List String, vs = names.map .text := by
  induction vs generalizing r with
  | nil => exact ⟨[], rfl⟩
  | cons v vs ih =>
    rw [List.foldlM_cons] at h
    obtain ⟨r₁, first, rest⟩ := exists_of_bind h
    obtain ⟨names, rfl⟩ := ih rest
    cases v with
    | text name => exact ⟨name :: names, rfl⟩
    | _ => cases first

theorem keys_of_foldlM (own : (Entries.keys r).Nodup)
    (h : (names.map Value.text).foldlM (putField obj) r = .ok r') :
    Entries.keys r' = distinct (Entries.keys r ++ names) := by
  induction names generalizing r with
  | nil =>
    cases h
    rw [List.append_nil, distinct_of_nodup own]
  | cons name names ih =>
    rw [List.map_cons, List.foldlM_cons] at h
    obtain ⟨r₁, first, rest⟩ := exists_of_bind h
    obtain ⟨v, -, rfl⟩ := exists_of_map first
    rw [ih (Entries.nodup_keys_put own) rest, Entries.keys_put_eq_distinct own,
      distinct_distinct_append, List.append_assoc]
    rfl

theorem get?_of_foldlM (h : (names.map Value.text).foldlM (putField obj) r = .ok r') :
    (∀ n ∈ names, ∃ v, serialize (read obj n) = .ok v ∧ Entries.get? n r' = some v) ∧
      ∀ n ∉ names, Entries.get? n r' = Entries.get? n r := by
  induction names generalizing r with
  | nil =>
    cases h
    exact ⟨by simp, fun _ _ => rfl⟩
  | cons name names ih =>
    rw [List.map_cons, List.foldlM_cons] at h
    obtain ⟨r₁, first, rest⟩ := exists_of_bind h
    obtain ⟨v, made, rfl⟩ := exists_of_map first
    obtain ⟨inside, outside⟩ := ih rest
    refine ⟨fun n hn => ?_, fun n hn => ?_⟩
    · by_cases later : n ∈ names
      · exact inside n later
      · obtain rfl : n = name := (List.mem_cons.mp hn).resolve_right later
        exact ⟨v, made, by rw [outside n later, Entries.get?_put_self]⟩
    · rw [outside n fun later => hn (List.mem_cons_of_mem _ later),
        Entries.get?_put_of_ne fun e => hn (by rw [e]; exact List.mem_cons_self)]

theorem get?_of_ofFields (h : ofFields obj (.texts names) = .ok r) :
    ∀ n ∈ names, ∃ v, serialize (read obj n) = .ok v ∧ Entries.get? n r = some v := by
  have folded : (names.map Value.text).foldlM (putField obj) [] = .ok r := h
  exact (get?_of_foldlM folded).1

theorem exists_names_of_ofFields (h : ofFields obj fields = .ok r) :
    ∃ names, fields.elements = .ok (names.map .text) ∧ Entries.keys r = distinct names := by
  obtain ⟨vs, listed, put⟩ := exists_of_bind h
  obtain ⟨names, rfl⟩ := exists_names_of_foldlM put
  exact ⟨names, listed, keys_of_foldlM (r := []) List.nodup_nil put⟩

/-! ## Relations -/

theorem populateEach_of_populate (h : populate populated obj r = .ok r') :
    populateEach (relationsOf populated) obj r = .ok r' := by
  cases populated with
  | mapping relations => rwa [populate] at h
  | _ =>
    rw [populate] at h
    · split at h
      · cases h
      · show populateEach [] obj r = .ok r'
        rwa [populateEach]
    · simp

theorem keys_of_populateEach (own : (Entries.keys r).Nodup)
    (h : populateEach relations obj r = .ok r') :
    Entries.keys r' = distinct (Entries.keys r ++ Entries.keys relations) := by
  induction relations generalizing r with
  | nil =>
    rw [populateEach] at h
    cases h
    rw [Entries.keys, Entries.keys, List.map_nil, List.append_nil]
    exact (distinct_of_nodup own).symm
  | cons e relations ih =>
    obtain ⟨relation, spec⟩ := e
    rw [populateEach] at h
    obtain ⟨v, -, rest⟩ := exists_of_bind h
    rw [ih (Entries.nodup_keys_put own) rest, Entries.keys_put_eq_distinct own,
      distinct_distinct_append, List.append_assoc]
    rfl

theorem get?_of_populateEach_of_not_mem (h : populateEach relations obj r = .ok r') :
    ∀ n ∉ Entries.keys relations, Entries.get? n r' = Entries.get? n r := by
  induction relations generalizing r with
  | nil =>
    rw [populateEach] at h
    cases h
    exact fun _ _ => rfl
  | cons e relations ih =>
    obtain ⟨relation, spec⟩ := e
    rw [populateEach] at h
    obtain ⟨v, -, rest⟩ := exists_of_bind h
    intro n hn
    have later : n ∉ Entries.keys relations := fun mem => hn (List.mem_cons_of_mem _ mem)
    have ne : n ≠ relation := fun e => hn (by rw [e]; exact List.mem_cons_self)
    rw [ih rest n later, Entries.get?_put_of_ne ne]

/-- Every relation of a mapping is in a record with what is made of it. -/
def Populated (obj : Value) (relations r : Entries Value) : Prop :=
  ∀ n spec, Entries.get? n relations = some spec →
    ∃ v, relate spec (read obj n) = .ok v ∧ Entries.get? n r = some v

theorem Populated.put (h : Populated obj relations r) {n : String}
    (made : relate spec (read obj n) = .ok v) :
    Populated obj (Entries.put n spec relations) (Entries.put n v r) := by
  intro l spec' found
  rw [Entries.get?_put] at found ⊢
  by_cases same : l = n
  · rw [if_pos same] at found ⊢
    obtain rfl := Option.some.inj found
    exact ⟨v, same ▸ made, rfl⟩
  · rw [if_neg same] at found ⊢
    exact h l spec' found

theorem Populated.merge {before : Entries Value} (start : Populated obj before r)
    (h : populateEach relations obj r = .ok r') :
    Populated obj (Entries.merge before relations) r' := by
  induction relations generalizing before r with
  | nil =>
    rw [populateEach] at h
    cases h
    exact start
  | cons e relations ih =>
    obtain ⟨relation, spec⟩ := e
    rw [populateEach] at h
    obtain ⟨v, made, rest⟩ := exists_of_bind h
    exact ih (start.put made) rest

theorem populated_of_populateEach (h : populateEach relations obj r = .ok r') :
    Populated obj (Entries.ofPairs relations) r' :=
  Populated.merge (fun _ _ found => nomatch found) h

theorem populateNested_eq (spec : Entries Value) (item : Value) (r : Entries Value) :
    populateNested spec item r = populate (populateOf spec) item r := by
  induction spec with
  | nil =>
    show _ = populate .null item r
    rw [populateNested, populate]
    · rfl
    · simp
  | cons e spec ih =>
    obtain ⟨key, v⟩ := e
    rw [populateNested]
    by_cases here : key = "populate"
    · simp [populateOf, Entries.get?, here]
    · rw [if_neg here, ih]
      simp [populateOf, Entries.get?, here]

/-- What a relation holds, by what is related. -/
theorem relate_cases (h : relate spec related = .ok v) :
    ∃ es, spec = .mapping es ∧
      ((related = .null ∧ v = .null) ∨
        (∃ form items records, related = .series form items ∧ v = .list (records.map .mapping) ∧
          List.Forall₂ (fun item record => build item (fieldsOf es) (populateOf es) = .ok record)
            items records) ∨
        (related ≠ .null ∧ (∀ form items, related ≠ .series form items) ∧
          ∃ record, v = .mapping record ∧
            build related (fieldsOf es) (populateOf es) = .ok record)) := by
  cases spec with
  | mapping es =>
    refine ⟨es, rfl, ?_⟩
    have one (item : Value) : (do
        let r ← ofFields item ((Entries.get? "fields" es).getD (.list []))
        populateNested es item r) = build item (fieldsOf es) (populateOf es) := by
      simp only [populateNested_eq]
      rfl
    cases related with
    | null =>
      rw [relate] at h
      exact .inl ⟨rfl, (Except.ok.inj h).symm⟩
    | series form items =>
      rw [relate] at h
      simp only [one] at h
      obtain ⟨records, built, made⟩ := exists_of_bind h
      exact .inr (.inl ⟨form, items, records, rfl, (Except.ok.inj made).symm, forall₂_of_mapM built⟩)
    | object attributes =>
      rw [relate] at h
      simp only [one] at h
      split at h
      · cases h
      · obtain ⟨record, built, rfl⟩ := exists_of_map h
        exact .inr (.inr ⟨by simp, by simp, record, rfl, built⟩)
    | bool _ | int _ | text _ | literal _ _ | mapping _ =>
      rw [relate] at h
      · simp only [one] at h
        obtain ⟨record, built, rfl⟩ := exists_of_map h
        exact .inr (.inr ⟨by simp, by simp, record, rfl, built⟩)
      all_goals simp
  | _ =>
    rw [relate] at h
    · cases h
    · simp

/-! ## Records -/

/-- The keys of a record are the names of its fields and then those of its relations, each once. -/
theorem exists_names_of_build (built : build obj fields populated = .ok r) :
    ∃ names, fields.elements = .ok (names.map .text) ∧
      Entries.keys r = distinct (names ++ Entries.keys (relationsOf populated)) := by
  obtain ⟨r₀, put, rest⟩ := exists_of_bind built
  obtain ⟨names, listed, keys⟩ := exists_names_of_ofFields put
  have own : (Entries.keys r₀).Nodup := by
    rw [keys]
    exact nodup_distinct names
  refine ⟨names, listed, ?_⟩
  rw [keys_of_populateEach own (populateEach_of_populate rest), keys, distinct_distinct_append]

/-- A field that no relation goes by holds what is read of the object. -/
theorem get?_of_build (built : build obj fields populated = .ok r)
    (listed : fields.elements = .ok (names.map .text)) {n : String} (asked : n ∈ names)
    (free : n ∉ Entries.keys (relationsOf populated)) :
    ∃ v, serialize (read obj n) = .ok v ∧ Entries.get? n r = some v := by
  obtain ⟨r₀, put, rest⟩ := exists_of_bind built
  unfold ofFields at put
  rw [listed] at put
  obtain ⟨inside, -⟩ := get?_of_foldlM (r := []) put
  obtain ⟨v, made, got⟩ := inside n asked
  exact ⟨v, made, by rw [get?_of_populateEach_of_not_mem (populateEach_of_populate rest) n free, got]⟩

/-- A relation holds what is made of what is read of the object. -/
theorem populated_of_build (built : build obj fields populated = .ok r) :
    Populated obj (Entries.ofPairs (relationsOf populated)) r := by
  obtain ⟨r₀, -, rest⟩ := exists_of_bind built
  exact populated_of_populateEach (populateEach_of_populate rest)

end Record
end Sitemap
