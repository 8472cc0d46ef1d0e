/-
The rows of a table under insertion, deletion and update.

A table is numbered when its rows have identifiers of their own, all of them given out before, and
keyed when no two of its rows have the same key.  The three changes keep both, as far as they are
made to the rows of one key.
-/
import Sitemap.Proofs.Store.Turn

namespace Sitemap
namespace Store

theorem key_of_data {op : Operation} {k : Key} (h : (Job.operation op).lockKey? = some k)
    (id : Int) : Row.key ⟨id, op.data⟩ k.table = k := by
  cases op with
  | getSitemap _ _ | deleteSitemap _ | getCache _ => cases h
  | createSitemap _ _ _ | createCache _ _ | updateCache _ _ =>
    cases h
    simp [Row.key, Row.column, Operation.data, Entries.get?, Key.table]

theorem key_of_merge {op : Operation} {k : Key} (h : (Job.operation op).lockKey? = some k)
    (id : Int) (data : Entries Value) : Row.key ⟨id, Entries.merge data op.data⟩ k.table = k := by
  cases op with
  | getSitemap _ _ | deleteSitemap _ | getCache _ => cases h
  | createSitemap _ _ _ | createCache _ _ | updateCache _ _ =>
    cases h
    simp [Row.key, Row.column, Operation.data, Entries.merge, Entries.get?_put, Key.table]

namespace Table

/-- Every row has an identifier of its own, which has been given out. -/
structure Numbered (t : Table) : Prop where
  own : (t.rows.map Row.id).Nodup
  given : ∀ r ∈ t.rows, r.id < t.nextId

/-- No two rows have the same key. -/
def Keyed (name : TableName) (t : Table) : Prop :=
  t.rows.Pairwise fun r r' => (r.key name).meets (r'.key name) = false

theorem mem_ofKey {k : Key} {t : Table} {r : Row} :
    r ∈ t.ofKey k ↔ r ∈ t.rows ∧ (r.key k.table).meets k = true := List.mem_filter

theorem mem_erase {id : Int} {t : Table} {r : Row} : r ∈ (t.erase id).rows ↔ r ∈ t.rows ∧ r.id ≠ id := by
  simp [erase]

theorem mem_insert {data : Entries Value} {t : Table} {r : Row} :
    r ∈ (t.insert data).rows ↔ r ∈ t.rows ∨ r = t.newRow data := by
  simp [insert, insertRow]

theorem Numbered.newId_eq {t : Table} (h : t.Numbered) : t.newId = t.nextId := by
  have fixed : ∀ rows : List Row, (∀ r ∈ rows, r.id < t.nextId) →
      rows.foldl (fun n r => max n (r.id + 1)) t.nextId = t.nextId := by
    intro rows
    induction rows with
    | nil => intro _; rfl
    | cons r rows ih =>
      intro given
      have first : max t.nextId (r.id + 1) = t.nextId := by
        have := given r List.mem_cons_self
        omega
      rw [List.foldl_cons, first]
      exact ih fun x hx => given x (List.mem_cons_of_mem _ hx)
  exact fixed t.rows h.given

theorem Numbered.eq_of_id {t : Table} (h : t.Numbered) {r r' : Row} (hr : r ∈ t.rows)
    (hr' : r' ∈ t.rows) (same : r.id = r'.id) : r = r' :=
  List.inj_on_of_nodup_map h.own hr hr' same

theorem Numbered.find?_eq {t : Table} (h : t.Numbered) {r : Row} (hr : r ∈ t.rows) :
    t.find? r.id = some r := by
  cases found : t.find? r.id with
  | none => exact absurd (decide_eq_true rfl) (List.find?_eq_none.mp found r hr)
  | some r' =>
    have same : r'.id = r.id := by
      unfold find? at found
      simpa using List.find?_some found
    rw [h.eq_of_id (List.mem_of_find?_eq_some found) hr same]

theorem Numbered.erase {t : Table} (h : t.Numbered) (id : Int) : (t.erase id).Numbered where
  own := h.own.sublist (List.filter_sublist.map _)
  given r hr := h.given r (mem_erase.mp hr).1

theorem Numbered.insert {t : Table} (h : t.Numbered) (data : Entries Value) :
    (t.insert data).Numbered := by
  refine ⟨?_, fun r hr => ?_⟩
  · show ((t.rows ++ [t.newRow data]).map Row.id).Nodup
    rw [List.map_append]
    refine List.nodup_append.mpr ⟨h.own, List.nodup_singleton _, fun a ha b hb => ?_⟩
    obtain ⟨r, hr, rfl⟩ := List.mem_map.mp ha
    rw [List.mem_singleton.mp hb]
    exact Int.ne_of_lt (lt_newId hr)
  · show r.id < max t.nextId (t.newId + 1)
    rcases mem_insert.mp hr with hr | rfl
    · have := h.given r hr
      omega
    · show t.newId < _
      omega

theorem update_ids (id : Int) (data : Entries Value) (t : Table) :
    (t.update id data).rows.map Row.id = t.rows.map Row.id := by
  rw [update, List.map_map]
  refine List.map_congr_left fun r _ => ?_
  show (if r.id = id then _ else r : Row).id = r.id
  split
  · next e => exact e.symm
  · rfl

theorem Numbered.update {t : Table} (h : t.Numbered) (id : Int) (data : Entries Value) :
    (t.update id data).Numbered := by
  refine ⟨by rw [update_ids]; exact h.own, fun r hr => ?_⟩
  have mem : r.id ∈ t.rows.map Row.id := by
    rw [← update_ids id data t]
    exact List.mem_map_of_mem hr
  obtain ⟨r', hr', e⟩ := List.mem_map.mp mem
  rw [← e]
  exact h.given r' hr'

theorem Numbered.find?_update {t : Table} (h : t.Numbered) {r : Row} (hr : r ∈ t.rows)
    (data : Entries Value) :
    (t.update r.id data).find? r.id = some ⟨r.id, Entries.merge r.data data⟩ := by
  have mem : (⟨r.id, Entries.merge r.data data⟩ : Row) ∈ (t.update r.id data).rows :=
    List.mem_map.mpr ⟨r, hr, if_pos rfl⟩
  exact (h.update r.id data).find?_eq mem

theorem filter_update {t : Table} {id : Int} {data : Entries Value} {p : Row → Bool}
    (same : ∀ r ∈ t.rows, r.id = id → p ⟨id, Entries.merge r.data data⟩ = p r) :
    (t.update id data).rows.filter p
      = (t.rows.filter p).map fun r => if r.id = id then ⟨id, Entries.merge r.data data⟩ else r := by
  rw [update, List.filter_map]
  congr 1
  refine List.filter_congr fun r hr => ?_
  show p (if r.id = id then ⟨id, Entries.merge r.data data⟩ else r) = p r
  by_cases e : r.id = id
  · rw [if_pos e, same r hr e]
  · rw [if_neg e]

/-! ## The rows of other keys -/

theorem filter_erase {id : Int} {t : Table} {p : Row → Bool}
    (other : ∀ r ∈ t.rows, r.id = id → p r = false) :
    (t.erase id).rows.filter p = t.rows.filter p := by
  show (t.rows.filter _).filter p = _
  rw [List.filter_filter]
  refine List.filter_congr fun r hr => ?_
  by_cases e : r.id = id
  · rw [other r hr e, Bool.false_and]
  · rw [decide_eq_true e, Bool.and_true]

theorem ofKey_erase {k : Key} {id : Int} {t : Table}
    (other : ∀ r ∈ t.rows, r.id = id → (r.key k.table).meets k = false) :
    (t.erase id).ofKey k = t.ofKey k := filter_erase other

theorem ofKey_insert {k : Key} {data : Entries Value} {t : Table}
    (other : ((t.newRow data).key k.table).meets k = false) :
    (t.insert data).ofKey k = t.ofKey k := by
  show (t.rows ++ [t.newRow data]).filter _ = t.rows.filter _
  rw [List.filter_append, List.filter_singleton, other]
  exact List.append_nil _

theorem ofKey_update {k : Key} {id : Int} {data : Entries Value} {t : Table}
    (other : ∀ r ∈ t.rows, r.id = id → (r.key k.table).meets k = false ∧
      (Row.key ⟨id, Entries.merge r.data data⟩ k.table).meets k = false) :
    (t.update id data).ofKey k = t.ofKey k := by
  have filtered (rows : List Row) (sub : rows ⊆ t.rows) :
      (rows.map fun r => if r.id = id then ⟨id, Entries.merge r.data data⟩ else r).filter
          (fun r => (r.key k.table).meets k) = rows.filter fun r => (r.key k.table).meets k := by
    induction rows with
    | nil => rfl
    | cons r rows ih =>
      have rest := ih fun x hx => sub (List.mem_cons_of_mem _ hx)
      rw [List.map_cons]
      by_cases e : r.id = id
      · obtain ⟨before, after⟩ := other r (sub List.mem_cons_self) e
        rw [if_pos e, List.filter_cons_of_neg (by rw [after]; exact Bool.false_ne_true),
          List.filter_cons_of_neg (by rw [before]; exact Bool.false_ne_true), rest]
      · rw [if_neg e, List.filter_cons, List.filter_cons, rest]
  exact filtered t.rows (List.Subset.refl _)

/-! ## One row for each key -/

theorem Keyed.erase {name : TableName} {t : Table} (h : t.Keyed name) (id : Int) :
    (t.erase id).Keyed name := h.sublist List.filter_sublist

theorem Keyed.insert {t : Table} {op : Operation} {k : Key} (h : t.Keyed k.table)
    (key : (Job.operation op).lockKey? = some k) (none : t.ofKey k = []) :
    (t.insert op.data).Keyed k.table := by
  refine List.pairwise_append.mpr ⟨h, List.pairwise_singleton _ _, fun r hr r' hr' => ?_⟩
  rw [List.mem_singleton.mp hr', newRow, key_of_data key]
  by_contra meets
  have : r ∈ t.ofKey k := mem_ofKey.mpr ⟨hr, by simpa using meets⟩
  rw [none] at this
  cases this

theorem Keyed.update {t : Table} {op : Operation} {k : Key} {id : Int} (h : t.Keyed k.table)
    (key : (Job.operation op).lockKey? = some k)
    (own : ∀ r ∈ t.rows, r.id = id → (r.key k.table).meets k = true) :
    (t.update id op.data).Keyed k.table := by
  -- What a row meets after the update it has met before.
  have before {r : Row} (hr : r ∈ t.rows) {x : Key}
      (meets : ((if r.id = id then ⟨id, Entries.merge r.data op.data⟩ else r : Row).key
        k.table).meets x = true) : (r.key k.table).meets x = true := by
    split at meets
    · next e =>
      rw [key_of_merge key] at meets
      exact Key.meets_trans (own r hr e) meets
    · exact meets
  refine List.pairwise_map.mpr (List.Pairwise.imp_of_mem ?_ h)
  intro r r' hr hr' apart
  by_contra meets
  have first := Key.meets_symm (before hr (by simpa using meets))
  have both := Key.meets_symm (before hr' first)
  rw [both] at apart
  cases apart

end Table

end Store
end Sitemap
