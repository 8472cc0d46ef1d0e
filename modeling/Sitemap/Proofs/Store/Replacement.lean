/-
Replacing rows is safe among any other operations.

A task that clears its key has all rows of the key on its list.  Others may delete such rows, but
only the holder of the lock adds one, so when the task inserts, no row of the key is left, whatever
the tables held at first.  In tables that start with one row for each key at most, every state that
can be reached has one row for each key at most: `replaceSafe_of_reachable`.
-/
import Sitemap.Proofs.Store.Tracking

namespace Sitemap
namespace Store

/-- No other row of the table has the key of `r`. -/
def Table.Alone (name : TableName) (r : Row) (t : Table) : Prop :=
  ∀ r' ∈ t.rows, r' ≠ r → (r'.key name).meets (r.key name) = false

/-- The row is in the second table, and the first has none of its identifier. -/
def Table.Gains (r : Row) (t t' : Table) : Prop := r ∈ t'.rows ∧ ∀ r' ∈ t.rows, r'.id ≠ r.id

/-- A table gains a row by an insertion alone, of a task that has nothing left to delete. -/
theorem Effect.of_gains {s : State} {t : Task} {tables : TableName → Table} {name : TableName}
    {r : Row} (h : Effect s t tables) (gains : (s.tables name).Gains r (tables name)) :
    ∃ op k l, t = ⟨.operation op, .clearing l []⟩ ∧ (Job.operation op).lockKey? = some k ∧
      k.table = name ∧ r.key name = k ∧ (tables name).rows = (s.tables name).rows ++ [r] := by
  obtain ⟨hr, new⟩ := gains
  have absent : r ∉ (s.tables name).rows := fun hr => new r hr rfl
  rcases h.rows hr with hr | ⟨k, key, _, rfl, hkey, fresh | ⟨_, _, _, r', hr', e⟩⟩
  · exact absurd hr absent
  · cases h with
    | keep => exact absurd hr absent
    | clear key' =>
      obtain rfl : k = _ := Option.some.inj (key.symm.trans key')
      rw [State.erase_table] at hr
      exact absurd (Table.mem_erase.mp hr).1 absent
    | erase =>
      obtain rfl : _ = k := Option.some.inj key
      rw [State.erase_table] at hr
      exact absurd (Table.mem_erase.mp hr).1 absent
    | update key' =>
      obtain rfl : k = _ := Option.some.inj (key.symm.trans key')
      rw [State.update_table] at hr
      have : r.id ∈ (s.tables k.table).rows.map Row.id := by
        rw [← Table.update_ids]
        exact List.mem_map_of_mem hr
      obtain ⟨r', hr', e⟩ := List.mem_map.mp this
      exact absurd e (new r' hr')
    | @insert op k' l key' =>
      obtain rfl : k = k' := Option.some.inj (key.symm.trans key')
      rw [State.insert_table] at hr ⊢
      rcases Table.mem_insert.mp hr with hr | rfl
      · exact absurd hr absent
      · exact ⟨op, k, l, rfl, key, rfl, hkey, rfl⟩
  · exact absurd e (new r' hr')

theorem Turn.alone {s v : State} {i : Nat} {t : Task} {refused : Option Refusal}
    (turn : Turn s i t refused v) (ht : s.tasks[i]? = some t) (clears : s.Clears)
    {name : TableName} {r : Row} (gains : (s.tables name).Gains r (v.tables name)) :
    (v.tables name).Alone name r := by
  obtain ⟨op, k, l, rfl, key, rfl, hkey, rows⟩ := turn.effect.of_gains gains
  intro r' hr' ne
  rw [rows] at hr'
  have old : r' ∈ (s.tables k.table).rows :=
    (List.mem_append.mp hr').resolve_right fun h => ne (List.mem_singleton.mp h)
  rw [hkey]
  by_contra meets
  have : r' ∈ (s.tables k.table).ofKey k := Table.mem_ofKey.mpr ⟨old, by simpa using meets⟩
  rw [clears.ofKey_eq_nil ht key] at this
  cases this

theorem Turn.keyed {s v : State} {i : Nat} {t : Task} {refused : Option Refusal}
    (turn : Turn s i t refused v) (ht : s.tasks[i]? = some t) (clears : s.Clears)
    (tracks : s.Tracks) (keyed : ∀ name, (s.tables name).Keyed name) :
    ∀ name, (v.tables name).Keyed name := by
  intro name
  have effect := turn.effect
  have hi := State.stages_of_tasks ht
  generalize v.tables = tables at effect
  have erased (k : Key) (id : Int) : ((s.erase k.table id).tables name).Keyed name := by
    by_cases e : name = k.table
    · subst e
      rw [State.erase_table]
      exact (keyed _).erase id
    · rw [State.erase_table_of_ne e]
      exact keyed name
  cases effect with
  | keep => exact keyed name
  | clear _ | erase => exact erased _ _
  | @insert op k l key =>
    by_cases e : name = k.table
    · subst e
      rw [State.insert_table]
      exact (keyed _).insert key (clears.ofKey_eq_nil ht key)
    · rw [State.insert_table_of_ne e]
      exact keyed name
  | @update op k l id key =>
    by_cases e : name = k.table
    · subst e
      rw [State.update_table]
      exact (keyed _).update key (tracks.own_of_updating hi key)
    · rw [State.update_table_of_ne e]
      exact keyed name

theorem keyed_of_reachable {s u : State} {ops : List Operation} (empty : s.locks.entries = [])
    (h : Reachable (s.withTasks ops) u) (numbered : ∀ name, (s.tables name).Numbered)
    (keyed : ∀ name, (s.tables name).Keyed name) : ∀ name, (u.tables name).Keyed name := by
  induction h with
  | start => exact keyed
  | @step u v i refused reached taken ih =>
    obtain ⟨t, ht, turn⟩ :=
      State.turn_of_step (fits_of_reachable reached (State.fits_withTasks ops s)) taken
    exact turn.keyed ht (clears_of_reachable empty reached)
      (tracks_of_reachable empty numbered reached) ih

/-- Whatever operations run at once, and whatever calls are refused: a row that a step inserts is
alone with its key, and no two rows ever have one key if none have at first. -/
theorem replaceSafe_of_reachable {s u : State} {ops : List Operation}
    (unlocked : s.locks.size = 0) (h : Reachable (s.withTasks ops) u) :
    (∀ i refused v, u.step i refused = some v →
      ∀ name r, (u.tables name).Gains r (v.tables name) → (v.tables name).Alone name r) ∧
    ((∀ name, (s.tables name).Numbered) → (∀ name, (s.tables name).Keyed name) →
      ∀ name, (u.tables name).Keyed name) := by
  have entries : s.locks.entries = [] := List.length_eq_zero_iff.mp unlocked
  refine ⟨fun i refused v taken name r gains => ?_, keyed_of_reachable entries h⟩
  obtain ⟨t, ht, turn⟩ :=
    State.turn_of_step (fits_of_reachable h (State.fits_withTasks ops s)) taken
  exact turn.alone ht (clears_of_reachable entries h) gains

/-- A deletion has listed the document and two creations replace it: the first has been refused its
insertion, and the second inserts next. -/
def replacing : State :=
  (oneDocument.withTasks [.deleteSitemap (.text "a"),
    .createSitemap (.text "x") (.text "a") (.int 1),
    .createSitemap (.text "y") (.text "a") (.int 1)]).turns
  [(0, none), (1, none), (1, none), (2, none), (1, none), (3, none), (1, none),
    (1, some (.connection .create 1)), (1, none), (2, none), (2, none)]

theorem replaceSafe_of_two_creates :
    ∃ v new, replacing.step 2 none = some v ∧
      (replacing.tables .sitemaps).Gains new (v.tables .sitemaps) ∧
      (v.tables .sitemaps).Alone .sitemaps new ∧ ∀ name, (replacing.tables name).Keyed name := by
  have reached : Reachable (oneDocument.withTasks _) replacing := reachable_turns _ _
  obtain ⟨alone, keyed⟩ := replaceSafe_of_reachable rfl reached
  have single : ∀ name, (oneDocument.tables name).Keyed name := by
    intro name
    cases name with
    | sitemaps => exact List.pairwise_singleton _ _
    | caches => exact List.Pairwise.nil
  let new : Row := ⟨2, Operation.data (.createSitemap (.text "y") (.text "a") (.int 1))⟩
  have inserted : (replacing.step 2 none).any (fun v => new ∈ (v.tables .sitemaps).rows) = true := by
    decide
  obtain ⟨v, taken, mem⟩ := (Option.any_eq_true _ _).mp inserted
  have gains : (replacing.tables .sitemaps).Gains new (v.tables .sitemaps) :=
    ⟨of_decide_eq_true mem, by decide⟩
  exact ⟨v, new, taken, gains, alone 2 none v taken .sitemaps new gains, keyed oneDocument_numbered single⟩

end Store
end Sitemap
