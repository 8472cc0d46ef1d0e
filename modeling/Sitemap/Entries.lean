/-
Mappings that remember the order of their keys.

A mapping is a list of entries.  `put` changes the value of a key that is present in place and adds
a new key at the end, so a mapping built by `put` alone has each key once, in the order in which the
keys first came.  The lemmas say how `get?` and `keys` read a mapping after a `put` or a `merge`.
-/

namespace Sitemap

/-- A mapping from names to values, in the order of its entries. -/
abbrev Entries (β : Type) := List (String × β)

namespace Entries

variable {β : Type}

/-- The value of the first entry with the key. -/
def get? (k : String) : Entries β → Option β
  | [] => none
  | e :: es => if e.1 = k then some e.2 else get? k es

/-- Give `k` the value `v`: in place if the key is present, else at the end. -/
def put (k : String) (v : β) : Entries β → Entries β
  | [] => [(k, v)]
  | e :: es => if e.1 = k then (k, v) :: es else e :: put k v es

def keys (es : Entries β) : List String := es.map Prod.fst

def merge (es fs : Entries β) : Entries β := fs.foldl (fun acc e => put e.1 e.2 acc) es

/-- The mapping with every value changed, each in the light of its key. -/
def mapWithKey {γ : Type} (f : String → β → γ) (es : Entries β) : Entries γ :=
  es.map fun e => (e.1, f e.1 e.2)

/-- The mapping that results from writing the pairs one after the other. -/
def ofPairs (pairs : List (String × β)) : Entries β := merge [] pairs

theorem get?_put_self (k : String) (v : β) (es : Entries β) : get? k (put k v es) = some v := by
  induction es with
  | nil => simp [put, get?]
  | cons e es ih => by_cases h : e.1 = k <;> simp [put, get?, h, ih]

theorem get?_put_of_ne {k l : String} (h : l ≠ k) (v : β) (es : Entries β) :
    get? l (put k v es) = get? l es := by
  induction es with
  | nil => simp [put, get?, Ne.symm h]
  | cons e es ih =>
    by_cases hk : e.1 = k
    · simp [put, get?, hk, Ne.symm h]
    · rw [put, if_neg hk, get?, get?, ih]

theorem get?_put (k l : String) (v : β) (es : Entries β) :
    get? l (put k v es) = if l = k then some v else get? l es := by
  by_cases h : l = k
  · subst h; simp [get?_put_self]
  · simp [h, get?_put_of_ne h]

theorem get?_isSome_iff {k : String} {es : Entries β} : (get? k es).isSome = true ↔ k ∈ keys es := by
  induction es with
  | nil => simp [get?, keys]
  | cons e es ih =>
    by_cases h : e.1 = k
    · simp [get?, keys, h]
    · simpa [get?, keys, h, Ne.symm h] using ih

theorem get?_eq_none_iff {k : String} {es : Entries β} : get? k es = none ↔ k ∉ keys es := by
  rw [← get?_isSome_iff]; simp

theorem keys_put (k : String) (v : β) (es : Entries β) :
    keys (put k v es) = if k ∈ keys es then keys es else keys es ++ [k] := by
  induction es with
  | nil => simp [put, keys]
  | cons e es ih =>
    by_cases h : e.1 = k
    · simp [put, keys, h]
    · have ih' : (put k v es).map Prod.fst
          = if k ∈ es.map Prod.fst then es.map Prod.fst else es.map Prod.fst ++ [k] := ih
      by_cases hm : k ∈ es.map Prod.fst
      · simp only [put, keys, h, if_false, List.map_cons, ih', hm, if_true, List.mem_cons, or_true]
      · simp only [put, keys, h, if_false, List.map_cons, ih', hm, List.mem_cons, Ne.symm h,
          or_self, List.cons_append]

theorem nodup_keys_put {k : String} {v : β} {es : Entries β} (h : (keys es).Nodup) :
    (keys (put k v es)).Nodup := by
  rw [keys_put]
  by_cases hk : k ∈ keys es
  · simpa [hk] using h
  · simp only [hk, if_false]
    exact List.nodup_append.mpr ⟨h, by simp, fun a ha b hb => by
      rintro rfl; rw [List.mem_singleton] at hb; exact hk (hb ▸ ha)⟩

theorem nodup_keys_merge {es fs : Entries β} (h : (keys es).Nodup) : (keys (merge es fs)).Nodup := by
  induction fs generalizing es with
  | nil => exact h
  | cons f fs ih => exact ih (nodup_keys_put h)

/-- A mapping written entry by entry has each key once. -/
theorem nodup_keys_ofPairs (pairs : List (String × β)) : (keys (ofPairs pairs)).Nodup :=
  nodup_keys_merge List.nodup_nil

theorem put_of_not_mem {k : String} {es : Entries β} (h : k ∉ keys es) (v : β) :
    put k v es = es ++ [(k, v)] := by
  induction es with
  | nil => rfl
  | cons e es ih =>
    have first : e.1 ≠ k := fun same => h (same ▸ List.mem_cons_self)
    have later : k ∉ keys es := fun mem => h (List.mem_cons_of_mem _ mem)
    rw [put, if_neg first, ih later, List.cons_append]

/-- Entries with new keys go to the end, in their order. -/
theorem merge_eq_append {es fs : Entries β} (h : (keys (es ++ fs)).Nodup) :
    merge es fs = es ++ fs := by
  induction fs generalizing es with
  | nil => exact (List.append_nil es).symm
  | cons f fs ih =>
    have shift : es ++ f :: fs = es ++ [f] ++ fs := List.append_cons es f fs
    have new : f.1 ∉ keys es := by
      unfold keys at h
      rw [List.map_append] at h
      exact fun mem => (List.nodup_append.mp h).2.2 _ mem _ List.mem_cons_self rfl
    show merge (put f.1 f.2 es) fs = _
    rw [put_of_not_mem new, shift]
    exact ih (by rw [← shift]; exact h)

theorem mem_keys_merge {k : String} {es fs : Entries β} :
    k ∈ keys (merge es fs) ↔ k ∈ keys es ∨ k ∈ keys fs := by
  induction fs generalizing es with
  | nil => simp [merge, keys]
  | cons f fs ih =>
    show k ∈ keys (merge (put f.1 f.2 es) fs) ↔ _
    rw [ih, ← get?_isSome_iff, get?_put]
    by_cases h : k = f.1
    · simp [h, keys]
    · rw [if_neg h, get?_isSome_iff]
      simp [keys, h]

theorem get?_merge {es fs : Entries β} (own : (keys fs).Nodup) (k : String) :
    get? k (merge es fs) = (get? k fs).or (get? k es) := by
  induction fs generalizing es with
  | nil => rfl
  | cons f fs ih =>
    obtain ⟨new, own⟩ := List.nodup_cons.mp own
    show get? k (merge (put f.1 f.2 es) fs) = _
    rw [ih own, get?_put, get?]
    by_cases e : k = f.1
    · subst e
      rw [if_pos rfl, if_pos rfl, get?_eq_none_iff.mpr new]
      rfl
    · rw [if_neg e, if_neg (Ne.symm e)]

theorem keys_map {γ : Type} (f : β → γ) (es : Entries β) :
    keys (es.map fun e => (e.1, f e.2)) = keys es := by
  rw [keys, List.map_map]
  rfl

theorem get?_mapWithKey {γ : Type} (f : String → β → γ) (es : Entries β) (k : String) :
    get? k (mapWithKey f es) = (get? k es).map (f k) := by
  induction es with
  | nil => rfl
  | cons e es ih =>
    show (if e.1 = k then some (f e.1 e.2) else get? k (mapWithKey f es))
      = (if e.1 = k then some e.2 else get? k es).map (f k)
    by_cases h : e.1 = k
    · rw [if_pos h, if_pos h, h]
      rfl
    · rw [if_neg h, if_neg h, ih]

theorem get?_map {γ : Type} (f : β → γ) (es : Entries β) (k : String) :
    get? k (es.map fun e => (e.1, f e.2)) = (get? k es).map f :=
  get?_mapWithKey (fun _ => f) es k

theorem get?_of_mem {k : String} {v : β} {es : Entries β} (own : (keys es).Nodup)
    (h : (k, v) ∈ es) : get? k es = some v := by
  induction es with
  | nil => cases h
  | cons e es ih =>
    obtain ⟨new, own⟩ := List.nodup_cons.mp own
    rcases List.mem_cons.mp h with rfl | h
    · rw [get?, if_pos rfl]
    · have ne : e.1 ≠ k := fun e' => new (e' ▸ List.mem_map_of_mem h)
      rw [get?, if_neg ne, ih own h]

/-- An entry that is found after a merge is one of those that were found before, or is merged in. -/
theorem mem_of_get?_merge {k : String} {v : β} {es fs : Entries β}
    (h : get? k (merge es fs) = some v) : get? k es = some v ∨ (k, v) ∈ fs := by
  induction fs generalizing es with
  | nil => exact .inl h
  | cons f fs ih =>
    rcases ih h with before | later
    · rw [get?_put] at before
      by_cases here : k = f.1
      · rw [if_pos here] at before
        obtain rfl := Option.some.inj before
        exact .inr (here ▸ List.mem_cons_self)
      · rw [if_neg here] at before
        exact .inl before
    · exact .inr (List.mem_cons_of_mem _ later)

theorem mem_of_get?_ofPairs {k : String} {v : β} {pairs : List (String × β)}
    (h : get? k (ofPairs pairs) = some v) : (k, v) ∈ pairs :=
  (mem_of_get?_merge h).resolve_left nofun

theorem ofPairs_of_nodup {es : Entries β} (own : (keys es).Nodup) : ofPairs es = es :=
  merge_eq_append own

theorem mem_of_get? {k : String} {v : β} {es : Entries β} (h : get? k es = some v) :
    (k, v) ∈ es := by
  induction es with
  | nil => cases h
  | cons e es ih =>
    rw [get?] at h
    by_cases here : e.1 = k
    · rw [if_pos here] at h
      obtain rfl := Option.some.inj h
      exact here ▸ List.mem_cons_self
    · rw [if_neg here] at h
      exact List.mem_cons_of_mem _ (ih h)

end Entries
end Sitemap
