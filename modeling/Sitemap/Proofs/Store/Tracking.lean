/-
What a task knows of the rows of its key while it holds the lock.

Only the holder of a key's lock adds rows of the key.  So a task that clears its key has all rows of
the key on its list (`Clears`), whatever the tables held at first.  In tables whose rows have
identifiers of their own more is known (`Tracks`): what is on the list stays a row of the key as long
as it is there, and a task that is about to update has the first row of its key in hand.
-/
import Sitemap.Proofs.Store.LockTable
import Sitemap.Proofs.Store.Rows

namespace Sitemap
namespace Store

/-! ## The tables after a turn -/

/-- What a turn of a task does to the tables. -/
inductive Effect (s : State) : Task → (TableName → Table) → Prop where
  | keep (t : Task) : Effect s t s.tables
  | clear {op : Operation} {k : Key} {l : Nat} {id : Int} {ids : List Int}
      (key : (Job.operation op).lockKey? = some k) :
      Effect s ⟨.operation op, .clearing l (id :: ids)⟩ (s.erase k.table id).tables
  | insert {op : Operation} {k : Key} {l : Nat} (key : (Job.operation op).lockKey? = some k) :
      Effect s ⟨.operation op, .clearing l []⟩ (s.insert k op.data).tables
  | update {op : Operation} {k : Key} {l : Nat} {id : Int}
      (key : (Job.operation op).lockKey? = some k) :
      Effect s ⟨.operation op, .updating l id⟩ (s.update k.table id op.data).tables
  | erase {k : Key} {id : Int} {parent l : Nat} :
      Effect s ⟨.eraseRow k id parent, .erasing l⟩ (s.erase k.table id).tables

theorem Turn.effect {s v : State} {i : Nat} {t : Task} {refused : Option Refusal}
    (h : Turn s i t refused v) : Effect s t v.tables := by
  have kept {w : State} (e : w.tables = s.tables) : Effect s t w.tables := by
    rw [e]
    exact .keep t
  cases h with
  | ask _ _ | read _ _ | list _ | take _ | fail _ _ _ | find _ => exact .keep _
  | turnedAway _ _ => exact kept (State.finish_tables _ _ _ _)
  | leave => exact kept (State.finish_tables _ _ _ _)
  | gathered _ => exact kept (State.finish_tables _ _ _ _)
  | clear key => exact .clear key
  | insert key => exact .insert key
  | update key => exact .update key
  | erase => exact .erase

namespace State

theorem erase_table (t : TableName) (id : Int) (s : State) :
    (s.erase t id).tables t = (s.tables t).erase id := if_pos rfl

theorem insert_table (k : Key) (data : Entries Value) (s : State) :
    (s.insert k data).tables k.table = (s.tables k.table).insert data := if_pos rfl

theorem update_table (t : TableName) (id : Int) (data : Entries Value) (s : State) :
    (s.update t id data).tables t = (s.tables t).update id data := if_pos rfl

theorem erase_table_of_ne {t name : TableName} (ne : name ≠ t) (id : Int) (s : State) :
    (s.erase t id).tables name = s.tables name := if_neg ne

theorem insert_table_of_ne {k : Key} {name : TableName} (ne : name ≠ k.table)
    (data : Entries Value) (s : State) : (s.insert k data).tables name = s.tables name := if_neg ne

theorem update_table_of_ne {t name : TableName} (ne : name ≠ t) (id : Int) (data : Entries Value)
    (s : State) : (s.update t id data).tables name = s.tables name := if_neg ne

end State

namespace Effect

variable {s : State} {t : Task} {tables : TableName → Table}

theorem rows (h : Effect s t tables) {name : TableName} {r : Row} (hr : r ∈ (tables name).rows) :
    r ∈ (s.tables name).rows ∨
      ∃ k, t.job.lockKey? = some k ∧ t.holds = true ∧ k.table = name ∧ r.key name = k ∧
        (r.id = (s.tables name).newId ∨
          ∃ op l, t = ⟨.operation op, .updating l r.id⟩ ∧
            ∃ r' ∈ (s.tables name).rows, r'.id = r.id) := by
  have erased {k : Key} {id : Int} (hr : r ∈ ((s.erase k.table id).tables name).rows) :
      r ∈ (s.tables name).rows := by
    by_cases e : name = k.table
    · subst e
      rw [State.erase_table] at hr
      exact (Table.mem_erase.mp hr).1
    · rwa [State.erase_table_of_ne e] at hr
  cases h with
  | keep => exact .inl hr
  | clear _ | erase => exact .inl (erased hr)
  | @insert op k l key =>
    by_cases e : name = k.table
    · subst e
      rw [State.insert_table] at hr
      rcases Table.mem_insert.mp hr with hr | rfl
      · exact .inl hr
      · exact .inr ⟨k, key, rfl, rfl, key_of_data key _, .inl rfl⟩
    · rw [State.insert_table_of_ne e] at hr
      exact .inl hr
  | @update op k l id key =>
    by_cases e : name = k.table
    · subst e
      rw [State.update_table] at hr
      obtain ⟨r', hr', changed⟩ := List.mem_map.mp hr
      split at changed
      · next e =>
        subst changed
        exact .inr ⟨k, key, rfl, rfl, key_of_merge key _ _, .inr ⟨op, l, rfl, r', hr', e⟩⟩
      · subst changed
        exact .inl hr'
    · rw [State.update_table_of_ne e] at hr
      exact .inl hr

theorem table (h : Effect s t tables) (name : TableName) :
    tables name = s.tables name ∨ (∃ id, tables name = (s.tables name).erase id) ∨
      (∃ data, tables name = (s.tables name).insert data) ∨
      ∃ id data, tables name = (s.tables name).update id data := by
  have erased (t : TableName) (id : Int) : (s.erase t id).tables name = s.tables name ∨
      ∃ id', (s.erase t id).tables name = (s.tables name).erase id' := by
    by_cases e : name = t
    · subst e
      exact .inr ⟨id, State.erase_table _ _ _⟩
    · exact .inl (State.erase_table_of_ne e _ _)
  cases h with
  | keep => exact .inl rfl
  | clear _ | erase => exact (erased _ _).imp_right .inl
  | @insert op k _ _ =>
    by_cases e : name = k.table
    · subst e
      exact .inr (.inr (.inl ⟨_, State.insert_table _ _ _⟩))
    · exact .inl (State.insert_table_of_ne e _ _)
  | @update op k _ id _ =>
    by_cases e : name = k.table
    · subst e
      exact .inr (.inr (.inr ⟨id, _, State.update_table _ _ _ _⟩))
    · exact .inl (State.update_table_of_ne e _ _ _)

theorem nextId_le (h : Effect s t tables) (name : TableName) :
    (s.tables name).nextId ≤ (tables name).nextId := by
  rcases h.table name with e | ⟨id, e⟩ | ⟨data, e⟩ | ⟨id, data, e⟩
  · exact Int.le_of_eq (by rw [e])
  · exact Int.le_of_eq (by rw [e]; rfl)
  · rw [e]; exact Int.le_max_left _ _
  · exact Int.le_of_eq (by rw [e]; rfl)

theorem numbered (h : Effect s t tables) {name : TableName} (before : (s.tables name).Numbered) :
    (tables name).Numbered := by
  rcases h.table name with e | ⟨id, e⟩ | ⟨data, e⟩ | ⟨id, data, e⟩ <;> rw [e]
  · exact before
  · exact before.erase id
  · exact before.insert data
  · exact before.update id data

theorem stage (h : Effect s t tables) : Effect s t.stage tables := by
  cases h with
  | keep => exact .keep _
  | clear key => exact .clear key
  | insert key => exact .insert key
  | update key => exact .update key
  | erase => exact .erase

end Effect

theorem Task.lock?_of_holds {t : Task} (h : t.holds = true) : ∃ l, t.lock? = some l := by
  obtain ⟨job, p⟩ := t
  cases p with
  | idle | waiting _ | gathering _ _ _ | done _ => cases h
  | _ => exact ⟨_, rfl⟩

theorem LockTable.keys_apart {s : State} (h : LockTable s.claims s.locks) {i j : Nat} {t u : Task}
    (ht : s.stages[i]? = some t) (hu : s.stages[j]? = some u) (ne : i ≠ j) {k k' : Key}
    (hk : t.job.lockKey? = some k) (hk' : u.job.lockKey? = some k')
    (holds : t.holds = true) (holds' : u.holds = true) : k.meets k' = false := by
  obtain ⟨l, hl⟩ := Task.lock?_of_holds holds
  obtain ⟨m, hm⟩ := Task.lock?_of_holds holds'
  have claim {i : Nat} {t : Task} (ht : s.stages[i]? = some t) : s.claims[i]? = some t.claim := by
    rw [State.claims, List.getElem?_map, ht]; rfl
  exact h.apart_of_holds (claim ht) (claim hu) ne hl hm hk hk' holds holds'

theorem Turn.tables_of_finding {s v : State} {i l : Nat} {job : Job} {refused : Option Refusal}
    (h : Turn s i ⟨job, .finding l⟩ refused v) : v.tables = s.tables := by
  have effect := h.effect
  generalize v.tables = tables at effect
  cases effect
  rfl

theorem Turn.tables_of_clearing {s v : State} {i l : Nat} {op : Operation} {k : Key} {id : Int}
    {ids : List Int} {refused : Option Refusal}
    (h : Turn s i ⟨.operation op, .clearing l (id :: ids)⟩ refused v)
    (ht : s.tasks[i]? = some ⟨.operation op, .clearing l (id :: ids)⟩)
    (hi : v.stages[i]? = some ⟨.operation op, .clearing l ids⟩)
    (key : (Job.operation op).lockKey? = some k) : v.tables = (s.erase k.table id).tables := by
  cases h with
  | clear key' =>
    obtain rfl : k = _ := Option.some.inj (key.symm.trans key')
    rfl
  | fail _ _ _ =>
    rw [State.stages_setPhase _ rfl, getElem?_set_of_some (State.stages_of_tasks ht)] at hi
    cases hi

theorem State.afterFind_eq_clearing {op : Operation} {l m : Nat} {rows : List Row} {ids : List Int}
    (h : afterFind (.operation op) l rows = .clearing m ids) : m = l ∧ ids = rows.map Row.id := by
  cases op <;> cases rows <;> cases h <;> exact ⟨rfl, rfl⟩

theorem State.afterFind_eq_updating {op : Operation} {l m : Nat} {rows : List Row} {id : Int}
    (h : afterFind (.operation op) l rows = .updating m id) :
    m = l ∧ (∃ json name, op = .updateCache json name) ∧ rows.head?.map Row.id = some id := by
  cases op <;> cases rows <;> cases h
  exact ⟨rfl, ⟨_, _, rfl⟩, rfl⟩

theorem Follows.of_clearing {s : State} {op : Operation} {p : Phase} {l : Nat} {ids : List Int}
    (h : Follows s ⟨.operation op, p⟩ (.clearing l ids)) :
    (∃ k, p = .finding l ∧ (Job.operation op).lockKey? = some k ∧
        ids = ((s.tables k.table).ofKey k).map Row.id) ∨
      ∃ id, p = .clearing l (id :: ids) := by
  generalize e : Phase.clearing l ids = q at h
  cases h with
  | found m key =>
    obtain ⟨hl, hids⟩ := State.afterFind_eq_clearing e.symm
    exact .inl ⟨_, by rw [hl], key, hids⟩
  | cleared _ m id rest =>
    cases e
    exact .inr ⟨id, rfl⟩
  | waiting | gathering | locked | leaving | ended => cases e

theorem Follows.of_updating {s : State} {op : Operation} {p : Phase} {l : Nat} {id : Int}
    (h : Follows s ⟨.operation op, p⟩ (.updating l id)) :
    ∃ k, p = .finding l ∧ (Job.operation op).lockKey? = some k ∧ k.table = .caches ∧
      ((s.tables k.table).ofKey k).head?.map Row.id = some id := by
  generalize e : Phase.updating l id = q at h
  cases h with
  | found m key =>
    obtain ⟨hl, ⟨json, name, rfl⟩, head⟩ := State.afterFind_eq_updating e.symm
    cases key
    exact ⟨_, by rw [hl], rfl, rfl, head⟩
  | waiting | gathering | locked | cleared | leaving | ended => cases e

/-! ## Clearing -/

/-- Tasks that clear their keys have all rows of these keys on their lists. -/
def State.Clears (s : State) : Prop :=
  ∀ (i l : Nat) (op : Operation) (k : Key) (ids : List Int),
    s.stages[i]? = some ⟨.operation op, .clearing l ids⟩ →
    (Job.operation op).lockKey? = some k → ∀ r ∈ (s.tables k.table).ofKey k, r.id ∈ ids

theorem State.Clears.of_turn {s v : State} {i : Nat} {t : Task} {refused : Option Refusal}
    (h : s.Clears) (locks : LockTable s.claims s.locks) (ht : s.tasks[i]? = some t)
    (turn : Turn s i t refused v) : v.Clears := by
  intro j l op k ids hj key r hr
  obtain ⟨mem, same⟩ := Table.mem_ofKey.mp hr
  have hi := State.stages_of_tasks ht
  rcases turn.stage_cases hj with ⟨rfl, p, e, follows⟩ | ⟨ne, old⟩ | ⟨_, _, _, e⟩
  · obtain ⟨job, q⟩ := t
    cases e
    rcases follows.of_clearing with ⟨k', rfl, key', rfl⟩ | ⟨id, rfl⟩
    · -- It has just found them.
      obtain rfl : k = k' := Option.some.inj (key.symm.trans key')
      rw [turn.tables_of_finding] at hr
      exact List.mem_map_of_mem hr
    · -- It has deleted one of them.
      rw [turn.tables_of_clearing ht hj key, State.erase_table] at mem
      have before := Table.mem_erase.mp mem
      have listed := h j l op k (id :: ids) hi key r (Table.mem_ofKey.mpr ⟨before.1, same⟩)
      exact (List.mem_cons.mp listed).resolve_left before.2
  · rcases turn.effect.rows mem with before | ⟨k', hk', holds, _, hkey, _⟩
    · exact h j l op k ids old key r (Table.mem_ofKey.mpr ⟨before, same⟩)
    · have apart : k'.meets k = false :=
        locks.keys_apart hi old (Ne.symm ne) (by rw [Task.stage_job, hk']) key
          (by rw [Task.stage_holds, holds]) rfl
      rw [hkey, apart] at same
      cases same
  · cases e

theorem clears_of_reachable {s u : State} {ops : List Operation} (empty : s.locks.entries = [])
    (h : Reachable (s.withTasks ops) u) : u.Clears := by
  induction h with
  | start =>
    intro i l op k ids hi
    rw [State.stages_withTasks] at hi
    obtain ⟨_, _, e⟩ := List.mem_map.mp (List.mem_of_getElem? hi)
    cases e
  | @step u v i refused reached taken ih =>
    have fits := fits_of_reachable reached (State.fits_withTasks ops s)
    obtain ⟨t, ht, turn⟩ := State.turn_of_step fits taken
    exact ih.of_turn (lockTable_of_reachable empty reached) ht turn

theorem State.Clears.ofKey_eq_nil {s : State} (h : s.Clears) {i l : Nat} {op : Operation} {k : Key}
    (ht : s.tasks[i]? = some ⟨.operation op, .clearing l []⟩)
    (key : (Job.operation op).lockKey? = some k) : (s.tables k.table).ofKey k = [] := by
  refine List.eq_nil_iff_forall_not_mem.mpr fun r hr => ?_
  cases h i l op k [] (State.stages_of_tasks ht) key r hr

/-! ## Tracking -/

/-- Whatever row of the table has this identifier, now or later, is a row of the key. -/
structure Table.Belongs (k : Key) (id : Int) (t : Table) : Prop where
  given : id < t.nextId
  own : ∀ r ∈ t.rows, r.id = id → (r.key k.table).meets k = true

/-- What the tasks know of the rows that they are about to change. -/
structure State.Tracks (s : State) : Prop where
  numbered : ∀ name, (s.tables name).Numbered
  listed : ∀ (i l : Nat) (op : Operation) (k : Key) (ids : List Int),
    s.stages[i]? = some ⟨.operation op, .clearing l ids⟩ → (Job.operation op).lockKey? = some k →
    ∀ id ∈ ids, (s.tables k.table).Belongs k id
  chosen : ∀ (i l : Nat) (op : Operation) (k : Key) (id : Int),
    s.stages[i]? = some ⟨.operation op, .updating l id⟩ → (Job.operation op).lockKey? = some k →
    k.table = .caches ∧ ((s.tables k.table).ofKey k).head?.map Row.id = some id
  started : ∀ (i : Nat) (k : Key) (id : Int) (parent : Nat) (p : Phase),
    s.stages[i]? = some ⟨.eraseRow k id parent, p⟩ →
    k.table = .sitemaps ∧ id < (s.tables .sitemaps).nextId

namespace State.Tracks

variable {s : State} {i : Nat} {t : Task} {tables : TableName → Table} {k : Key}

theorem own_of_updating (h : s.Tracks) {op : Operation} {l : Nat} {id : Int}
    (hi : s.stages[i]? = some ⟨.operation op, .updating l id⟩)
    (key : (Job.operation op).lockKey? = some k) :
    ∀ r ∈ (s.tables k.table).rows, r.id = id → (r.key k.table).meets k = true := by
  intro r hr e
  obtain ⟨_, head⟩ := h.chosen i l op k id hi key
  obtain ⟨r', first, e'⟩ := Option.map_eq_some_iff.mp head
  obtain ⟨hr', meets⟩ := Table.mem_ofKey.mp (List.mem_of_mem_head? first)
  rwa [(h.numbered k.table).eq_of_id hr hr' (e.trans e'.symm)]

theorem belongs (h : s.Tracks) (hi : s.stages[i]? = some t) (effect : Effect s t tables) {id : Int}
    (before : (s.tables k.table).Belongs k id)
    (apart : ∀ k', t.job.lockKey? = some k' → t.holds = true → k'.meets k = false) :
    (tables k.table).Belongs k id := by
  refine ⟨Int.lt_of_lt_of_le before.given (effect.nextId_le _), fun r hr e => ?_⟩
  rcases effect.rows hr with hr | ⟨k', key, holds, same, _, new | ⟨op, l, rfl, r', hr', e'⟩⟩
  · exact before.own r hr e
  · have := before.given
    have := Table.nextId_le_newId (s.tables k.table)
    omega
  · have other := apart k' key holds
    have meets := before.own r' hr' (e'.trans e)
    have own := h.own_of_updating hi key r' (by rwa [same]) e'
    rw [same] at own
    rw [Key.meets_trans (Key.meets_symm own) meets] at other
    cases other

theorem ofKey_eq (h : s.Tracks) (hi : s.stages[i]? = some t) (effect : Effect s t tables)
    (cache : k.table = .caches)
    (apart : ∀ k', t.job.lockKey? = some k' → t.holds = true → k'.meets k = false) :
    (tables k.table).ofKey k = (s.tables k.table).ofKey k := by
  -- What is a row of another key is no row of this one.
  have other {k' x : Key} (no : k'.meets k = false) (own : x.meets k' = true) :
      x.meets k = false := by
    by_contra meets
    rw [Key.meets_trans (Key.meets_symm own) (by simpa using meets)] at no
    cases no
  cases effect with
  | keep => rfl
  | @clear op k' l id ids key =>
    by_cases e : k.table = k'.table
    · rw [e, State.erase_table]
      refine Table.ofKey_erase fun r hr same => ?_
      have := (h.listed i l op k' (id :: ids) hi key id List.mem_cons_self).own r hr same
      rw [e]
      exact other (apart k' key rfl) this
    · rw [State.erase_table_of_ne e]
  | @insert op k' l key =>
    by_cases e : k.table = k'.table
    · rw [e, State.insert_table]
      refine Table.ofKey_insert ?_
      rw [e, Table.newRow, key_of_data key]
      exact apart k' key rfl
    · rw [State.insert_table_of_ne e]
  | @update op k' l id key =>
    by_cases e : k.table = k'.table
    · rw [e, State.update_table]
      refine Table.ofKey_update fun r hr same => ?_
      rw [e, key_of_merge key]
      exact ⟨other (apart k' key rfl) (h.own_of_updating hi key r hr same), apart k' key rfl⟩
    · rw [State.update_table_of_ne e]
  | @erase k' id parent l =>
    obtain ⟨sitemaps, _⟩ := h.started i k' id parent _ hi
    have ne : k.table ≠ k'.table := by rw [cache, sitemaps]; simp
    rw [State.erase_table_of_ne ne]

theorem of_turn {v : State} {refused : Option Refusal} (h : s.Tracks)
    (locks : LockTable s.claims s.locks) (ht : s.tasks[i]? = some t)
    (turn : Turn s i t refused v) : v.Tracks := by
  have hi := State.stages_of_tasks ht
  have apart {j : Nat} {u : Task} {k : Key} (hj : s.stages[j]? = some u) (ne : j ≠ i)
      (key : u.job.lockKey? = some k) (holds : u.holds = true) :
      ∀ k', t.stage.job.lockKey? = some k' → t.stage.holds = true → k'.meets k = false :=
    fun k' key' holds' => locks.keys_apart hi hj (Ne.symm ne) key' key holds' holds
  have effect := turn.effect.stage
  refine ⟨fun name => turn.effect.numbered (h.numbered name), fun j l op k ids hj key id hid => ?_,
    fun j l op k id hj key => ?_, fun j k id parent p hj => ?_⟩
  · rcases turn.stage_cases hj with ⟨rfl, p, e, follows⟩ | ⟨ne, old⟩ | ⟨_, _, _, e⟩
    · obtain ⟨job, q⟩ := t
      cases e
      rcases follows.of_clearing with ⟨k', rfl, key', rfl⟩ | ⟨id', rfl⟩
      · obtain rfl : k = k' := Option.some.inj (key.symm.trans key')
        obtain ⟨r, hr, rfl⟩ := List.mem_map.mp hid
        obtain ⟨mem, meets⟩ := Table.mem_ofKey.mp hr
        rw [turn.tables_of_finding]
        refine ⟨(h.numbered _).given r mem, fun r' hr' same => ?_⟩
        rwa [(h.numbered _).eq_of_id hr' mem same]
      · have before := h.listed j l op k _ hi key id (List.mem_cons_of_mem _ hid)
        rw [turn.tables_of_clearing ht hj key, State.erase_table]
        exact ⟨before.given, fun r hr => before.own r (Table.mem_erase.mp hr).1⟩
    · exact h.belongs hi effect (h.listed j l op k ids old key id hid) (apart old ne key rfl)
    · cases e
  · rcases turn.stage_cases hj with ⟨rfl, p, e, follows⟩ | ⟨ne, old⟩ | ⟨_, _, _, e⟩
    · obtain ⟨job, q⟩ := t
      cases e
      obtain ⟨k', rfl, key', cache, head⟩ := follows.of_updating
      obtain rfl : k = k' := Option.some.inj (key.symm.trans key')
      rw [turn.tables_of_finding]
      exact ⟨cache, head⟩
    · obtain ⟨cache, head⟩ := h.chosen j l op k id old key
      rw [h.ofKey_eq hi effect cache (apart old ne key rfl)]
      exact ⟨cache, head⟩
    · cases e
  · have more {id : Int} (given : id < (s.tables .sitemaps).nextId) :
        id < (v.tables .sitemaps).nextId := Int.lt_of_lt_of_le given (turn.effect.nextId_le _)
    rcases turn.stage_cases hj with ⟨rfl, q, e, _⟩ | ⟨_, old⟩ | ⟨r, hr, _, e⟩
    · have job : t.stage.job = .eraseRow k id parent := by
        rw [Task.stage_job]
        exact (congrArg Task.job e).symm
      obtain ⟨name, given⟩ := h.started j k id parent t.stage.phase (by rw [hi, ← job])
      exact ⟨name, more given⟩
    · obtain ⟨name, given⟩ := h.started j k id parent p old
      exact ⟨name, more given⟩
    · cases e
      exact ⟨rfl, more ((h.numbered _).given r hr)⟩

end State.Tracks

/-- In tables whose rows have identifiers of their own, tasks know what they change. -/
theorem tracks_of_reachable {s u : State} {ops : List Operation} (empty : s.locks.entries = [])
    (numbered : ∀ name, (s.tables name).Numbered) (h : Reachable (s.withTasks ops) u) :
    u.Tracks := by
  induction h with
  | start =>
    have idle {i : Nat} {t : Task} (hi : (s.withTasks ops).stages[i]? = some t) :
        ∃ op, t = ⟨.operation op, .idle⟩ := by
      rw [State.stages_withTasks] at hi
      obtain ⟨op, _, e⟩ := List.mem_map.mp (List.mem_of_getElem? hi)
      exact ⟨op, e.symm⟩
    refine ⟨numbered, fun i l op k ids hi => ?_, fun i l op k id hi => ?_,
      fun i k id parent p hi => ?_⟩ <;>
    · obtain ⟨_, e⟩ := idle hi
      cases e
  | @step u v i refused reached taken ih =>
    have fits := fits_of_reachable reached (State.fits_withTasks ops s)
    obtain ⟨t, ht, turn⟩ := State.turn_of_step fits taken
    exact ih.of_turn (lockTable_of_reachable empty reached) ht turn

/-- What holds in every state that operations reach in such tables. -/
structure State.Sound (s : State) : Prop where
  fits : ∀ t ∈ s.tasks, t.Fits
  locks : LockTable s.claims s.locks
  lockable : ∀ (i l : Nat) (t : Task) (k : Key), s.stages[i]? = some t → t.lock? = some l →
    t.job.lockKey? = some k → k.lockable = true
  clears : s.Clears
  tracks : s.Tracks

theorem sound_of_reachable {s u : State} {ops : List Operation} (empty : s.locks.entries = [])
    (numbered : ∀ name, (s.tables name).Numbered) (h : Reachable (s.withTasks ops) u) : u.Sound where
  fits := fits_of_reachable h (State.fits_withTasks ops s)
  locks := lockTable_of_reachable empty h
  lockable := lockable_of_reachable h
  clears := clears_of_reachable empty h
  tracks := tracks_of_reachable empty numbered h

/-- A table with one document. -/
def oneDocument : State where
  tables := fun
    | .sitemaps => ⟨[⟨1, [("name", .text "a"), ("delta", .int 1)]⟩], 2⟩
    | .caches => {}

theorem oneDocument_numbered (name : TableName) : (oneDocument.tables name).Numbered := by
  cases name with
  | sitemaps => exact ⟨by decide, by decide⟩
  | caches => exact ⟨by decide, by decide⟩

end Store
end Sitemap
