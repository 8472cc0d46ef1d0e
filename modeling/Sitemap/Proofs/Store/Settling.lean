/-
A run of the scheduler gets to an end.

The load of a task is more than the number of steps that it has left, when no key ever has more than
`n` rows; a deletion carries the load of the tasks that it has yet to start.  Every turn makes the
load of all tasks smaller.  The rows and the operations that may still insert one are together never
more than at the start, which bounds `n`, and the load at the start is below the bound that `settle`
runs with.  Since some task can step until all have ended, `settle` ends them all: `settle_ended`.
-/
import Sitemap.Proofs.Store.Progress
import Sitemap.Proofs.Store.Tracking

namespace Sitemap
namespace Store

/-! ## Room for rows -/

def Phase.mayInsert : Phase → Bool
  | .idle => true
  | .waiting _ => true
  | .finding _ => true
  | .clearing _ _ => true
  | _ => false

/-- Whether a task may still insert a row. -/
def Task.mayInsert (t : Task) : Bool :=
  match t.job with
  | .operation _ => t.phase.mayInsert
  | .eraseRow _ _ _ => false

/-- The rows of both tables. -/
def rowCount (tables : TableName → Table) : Nat :=
  (tables .sitemaps).rows.length + (tables .caches).rows.length

/-- The rows, and those that tasks may still insert. -/
def State.room (s : State) : Nat := rowCount s.tables + s.stages.countP Task.mayInsert

theorem Follows.mayInsert {s : State} {t : Task} {p : Phase} (h : Follows s t p)
    (may : Task.mayInsert ⟨t.job, p⟩ = true) : t.mayInsert = true := by
  obtain ⟨job, q⟩ := t
  cases job with
  | eraseRow _ _ _ => cases may
  | operation op => cases h <;> first | rfl | cases may

theorem rowCount_erase_le (t : TableName) (id : Int) (s : State) :
    rowCount (s.erase t id).tables ≤ rowCount s.tables := by
  have fewer (table : Table) : (table.erase id).rows.length ≤ table.rows.length :=
    List.length_filter_le _ _
  cases t with
  | sitemaps => exact Nat.add_le_add_right (fewer _) _
  | caches => exact Nat.add_le_add_left (fewer _) _

theorem rowCount_insert (k : Key) (data : Entries Value) (s : State) :
    rowCount (s.insert k data).tables = rowCount s.tables + 1 := by
  have more (table : Table) : (table.insert data).rows.length = table.rows.length + 1 :=
    List.length_append
  unfold rowCount
  cases k with
  | sitemap name delta =>
    rw [show (s.insert (.sitemap name delta) data).tables .sitemaps = _ from
      State.insert_table (.sitemap name delta) data s, State.insert_table_of_ne (by simp [Key.table]),
      more]
    exact Nat.add_right_comm _ _ _
  | cache name =>
    rw [show (s.insert (.cache name) data).tables .caches = _ from
      State.insert_table (.cache name) data s, State.insert_table_of_ne (by simp [Key.table]), more]
    rfl

theorem rowCount_update (t : TableName) (id : Int) (data : Entries Value) (s : State) :
    rowCount (s.update t id data).tables = rowCount s.tables := by
  have same (table : Table) : (table.update id data).rows.length = table.rows.length :=
    List.length_map _
  cases t with
  | sitemaps => exact congrArg (· + _) (same _)
  | caches => exact congrArg (_ + ·) (same _)

theorem Effect.rowCount {s : State} {t : Task} {tables : TableName → Table} (h : Effect s t tables) :
    rowCount tables ≤ rowCount s.tables ∨
      rowCount tables = rowCount s.tables + 1 ∧ ∃ op l, t = ⟨.operation op, .clearing l []⟩ := by
  cases h with
  | keep => exact .inl (Nat.le_refl _)
  | clear _ | erase => exact .inl (rowCount_erase_le _ _ _)
  | update _ => exact .inl (Nat.le_of_eq (rowCount_update _ _ _ _))
  | @insert op k l _ => exact .inr ⟨rowCount_insert _ _ _, op, l, rfl⟩

theorem Turn.room_le {s v : State} {i : Nat} {t : Task} {refused : Option Refusal}
    (h : Turn s i t refused v) (ht : s.tasks[i]? = some t) : v.room ≤ s.room := by
  obtain ⟨p, added, e, follows, started⟩ := h.stages
  have hi := State.stages_of_tasks ht
  have none : added.countP Task.mayInsert = 0 := by
    refine List.countP_eq_zero.mpr fun u hu => ?_
    obtain ⟨r, _, rfl⟩ := started.idle u hu
    exact Bool.false_ne_true
  have count := countP_set (b := ⟨t.job, p⟩) Task.mayInsert hi
  have stage : t.stage.mayInsert = t.mayInsert := by
    unfold Task.stage
    split
    · next c n r e => cases t with | mk job q => cases e; cases job <;> rfl
    · rfl
  rw [stage] at count
  rw [State.room, State.room, e, List.countP_append, none]
  rcases h.effect.rowCount with fewer | ⟨one, op, l, rfl⟩
  · by_cases may : Task.mayInsert ⟨t.job, p⟩ = true
    · rw [if_pos may, if_pos (follows.mayInsert may)] at count
      omega
    · rw [if_neg may] at count
      omega
  · -- A task that has inserted does not do so again.
    have before : Task.mayInsert ⟨.operation op, .clearing l []⟩ = true := rfl
    have after : Task.mayInsert ⟨.operation op, p⟩ = false := by cases follows <;> rfl
    rw [before, after, if_pos rfl, if_neg Bool.false_ne_true] at count
    omega

/-! ## The load of a task -/

/-- A bound on the steps of a task, when there are never more than `n` rows. -/
def Task.load (n : Nat) (t : Task) : Nat :=
  match t.job, t.phase with
  | .operation _, .idle => 4 * n + 5
  | .operation _, .waiting _ => n + 4
  | .eraseRow _ _ _, .idle => 4
  | .eraseRow _ _ _, .waiting _ => 3
  | _, .finding _ => n + 3
  | _, .clearing _ ids => ids.length + 2
  | _, .updating _ _ => 2
  | _, .erasing _ => 2
  | _, .leaving _ _ => 1
  | _, .gathering _ _ _ => 1
  | _, .done _ => 0

def State.load (n : Nat) (s : State) : Nat := (s.stages.map (Task.load n)).sum

theorem Task.load_stage (n : Nat) (t : Task) : t.stage.load n = t.load n := by
  unfold stage
  split
  · next c m r e => cases t with | mk job q => cases e; cases job <;> rfl
  · rfl

theorem Task.load_leaving (n : Nat) (job : Job) (l : Nat) (o : Outcome) :
    Task.load n ⟨job, .leaving l o⟩ = 1 := by cases job <;> rfl

theorem Task.load_done (n : Nat) (job : Job) (o : Outcome) : Task.load n ⟨job, .done o⟩ = 0 := by
  cases job <;> rfl

theorem Task.load_eq_zero {n : Nat} {t : Task} (h : t.load n = 0) : t.outcome?.isSome = true := by
  obtain ⟨job, p⟩ := t
  cases p with
  | done o => rfl
  | idle | waiting _ => cases job <;> simp [load] at h
  | _ => simp [load] at h

theorem Task.two_le_load {n l : Nat} {t : Task} (lock : t.lock? = some l)
    (working : ∀ l o, t.phase ≠ .leaving l o) : 2 ≤ t.load n := by
  obtain ⟨job, p⟩ := t
  cases p with
  | idle | gathering _ _ _ | done _ => cases lock
  | leaving l o => exact absurd rfl (working l o)
  | waiting _ => cases job <;> simp [load]
  | _ => simp [load]

theorem Task.one_le_load {n : Nat} {t : Task} (unfinished : t.outcome? = none) : 1 ≤ t.load n := by
  refine Nat.one_le_iff_ne_zero.mpr fun zero => ?_
  have := Task.load_eq_zero zero
  rw [unfinished] at this
  cases this

/-- What follows is a smaller load, that of the tasks of a deletion included. -/
theorem Follows.load_lt {s : State} {i n : Nat} {t : Task} {p : Phase} {added : List Task}
    (h : Follows s t p) (started : Started s i p added) (room : rowCount s.tables ≤ n) :
    Task.load n ⟨t.job, p⟩ + (added.map (Task.load n)).sum < t.load n := by
  have each : (added.map (Task.load n)).sum = 4 * added.length := by
    have four : ∀ u ∈ added, Task.load n u = 4 := by
      intro u hu
      obtain ⟨r, _, rfl⟩ := started.idle u hu
      rfl
    rw [List.map_congr_left four, List.map_const', List.sum_replicate_nat, Nat.mul_comm]
  have most := started.length_le
  have rows (k : Key) : ((s.tables k.table).ofKey k).length ≤ n := by
    refine Nat.le_trans (List.length_filter_le _ _) (Nat.le_trans ?_ room)
    cases k with
    | sitemap _ _ => exact Nat.le_add_right _ _
    | cache _ => exact Nat.le_add_left _ _
  cases h with
  | gathering name =>
    have := Nat.le_add_right (s.tables .sitemaps).rows.length (s.tables .caches).rows.length
    rw [show (Phase.gathering 0 0 none).isGathering = true from rfl, if_pos rfl] at most
    unfold rowCount at room
    rw [each]
    simp only [Task.load]
    omega
  | @waiting job _ l _ _ =>
    rw [show (Phase.waiting l).isGathering = false from rfl, if_neg Bool.false_ne_true] at most
    rw [each]
    cases job <;> simp only [Task.load] <;> omega
  | locked job l =>
    rw [State.afterLock_isGathering, if_neg Bool.false_ne_true] at most
    rw [each]
    cases job <;> simp only [Task.load, State.afterLock] <;> omega
  | @found op k l key =>
    rw [State.afterFind_isGathering, if_neg Bool.false_ne_true] at most
    have := rows k
    rw [each]
    unfold State.afterFind
    split <;> simp only [Task.load, List.length_map] <;> omega
  | cleared op l id ids =>
    rw [show (Phase.clearing l ids).isGathering = false from rfl, if_neg Bool.false_ne_true] at most
    rw [each]
    simp only [Task.load, List.length_cons]
    omega
  | @leaving _ l o lock _ working =>
    rw [show (Phase.leaving l o).isGathering = false from rfl, if_neg Bool.false_ne_true] at most
    have := Task.two_le_load (n := n) lock working
    rw [each, Task.load_leaving]
    omega
  | ended o unfinished =>
    rw [show (Phase.done o).isGathering = false from rfl, if_neg Bool.false_ne_true] at most
    have := Task.one_le_load (n := n) unfinished
    rw [each, Task.load_done]
    omega

theorem Turn.load_lt {s v : State} {i n : Nat} {t : Task} {refused : Option Refusal}
    (h : Turn s i t refused v) (ht : s.tasks[i]? = some t) (room : s.room ≤ n) :
    v.load n < s.load n := by
  obtain ⟨p, added, e, follows, started⟩ := h.stages
  have rows : rowCount s.tables ≤ n := Nat.le_trans (Nat.le_add_right _ _) room
  have less := follows.load_lt started rows
  have sum := sum_set (b := ⟨t.job, p⟩) (Task.load n) (State.stages_of_tasks ht)
  rw [Task.load_stage] at sum
  rw [State.load, State.load, e, List.map_append, List.sum_append]
  omega

/-! ## The end of a run -/

theorem State.mem_of_ready {s : State} {queue rest : List Nat} {i : Nat}
    (h : s.ready queue = i :: rest) : s.canStep i = true := by
  have mem : i ∈ s.ready queue := by
    rw [h]
    exact List.mem_cons_self
  rcases List.mem_append.mp mem with mem | mem
  · exact (List.mem_filter.mp mem).2
  · have := (List.mem_filter.mp mem).2
    simp only [decide_eq_true_eq] at this
    exact this.2

theorem State.canStep_of_ready_nil {s : State} {queue : List Nat} (h : s.ready queue = []) {i : Nat}
    (hi : i < s.tasks.length) : s.canStep i = false := by
  obtain ⟨first, second⟩ := List.append_eq_nil_iff.mp h
  by_contra can
  by_cases mem : i ∈ queue
  · exact absurd (by simpa using can) (List.filter_eq_nil_iff.mp first i mem)
  · have := List.filter_eq_nil_iff.mp second i (List.mem_range.mpr hi)
    simp only [decide_eq_true_eq, not_and] at this
    exact this mem (by simpa using can)

theorem State.turn_of_ready {γ : Type} {s : State} {i : Nat} (fits : ∀ t ∈ s.tasks, t.Fits)
    (env : Environment γ) (g : γ) (can : s.canStep i = true) :
    ∃ t refused, s.tasks[i]? = some t ∧ Turn s i t refused (s.stepIn env g i).2 := by
  have taken (refused : Option Refusal) : ∃ v, s.step i refused = some v := by
    have step := can
    unfold canStep at step
    cases ht : s.tasks[i]? with
    | none =>
      unfold State.step at step
      rw [ht] at step
      cases step
    | some t =>
      have fit := fits t (List.mem_of_getElem? ht)
      rw [step_isSome fit ht] at step
      exact Option.isSome_iff_exists.mp ((step_isSome fit ht refused).trans step)
  have stepped {refused : Option Refusal} {v : State} (h : s.step i refused = some v) :
      ∃ t, s.tasks[i]? = some t ∧ Turn s i t refused ((s.step i refused).getD s) := by
    rw [h]
    exact State.turn_of_step fits h
  unfold stepIn
  split
  simp only
  obtain ⟨v, h⟩ := taken _
  obtain ⟨t, ht, turn⟩ := stepped h
  exact ⟨t, _, ht, turn⟩

section Run

variable {γ : Type} {s : State} {ops : List Operation}

/-- A run of the scheduler that may take as many steps as the load goes on until all tasks have
ended. -/
theorem settleWithin_ended (empty : s.locks.entries = []) (env : Environment γ) {n bound : Nat}
    {queue : List Nat} {g : γ} {u : State} (h : Reachable (s.withTasks ops) u) (room : u.room ≤ n)
    (load : u.load n ≤ bound) :
    ∀ t ∈ (State.settleWithin env bound queue g u).2.tasks, t.outcome?.isSome = true := by
  induction bound generalizing queue g u with
  | zero =>
    intro t ht
    have mem : Task.load n t ∈ u.stages.map (Task.load n) := by
      rw [← Task.load_stage]
      exact List.mem_map_of_mem (List.mem_map_of_mem ht)
    exact Task.load_eq_zero
      (List.sum_eq_zero_iff_forall_eq_nat.mp (Nat.le_zero.mp load) _ mem)
  | succ bound ih =>
    unfold State.settleWithin
    split
    · next none =>
      intro t ht
      by_contra unfinished
      obtain ⟨i, step⟩ := exists_step empty h ht (by simpa using unfinished)
      have hi : i < u.tasks.length := by
        by_contra out
        have := step .none
        unfold State.step at this
        rw [List.getElem?_eq_none (Nat.le_of_not_lt out)] at this
        cases this
      have can : u.canStep i = true := step .none
      rw [State.canStep_of_ready_nil none hi] at can
      cases can
    · next i rest ready =>
      obtain ⟨t, refused, ht, turn⟩ := State.turn_of_ready
        (fits_of_reachable h (State.fits_withTasks ops s)) env g (State.mem_of_ready ready)
      exact ih (h.trans (State.reachable_stepIn env g i u)) (Nat.le_trans (turn.room_le ht) room)
        (Nat.le_of_lt_succ (Nat.lt_of_lt_of_le (turn.load_lt ht room) load))

theorem load_withTasks_le (ops : List Operation) (s : State) :
    (s.withTasks ops).load (s.withTasks ops).room ≤ (s.withTasks ops).stepBound := by
  have stages := State.stages_withTasks ops s
  have count : (s.withTasks ops).room = rowCount s.tables + ops.length := by
    have all : (ops.map Task.ofOperation).countP Task.mayInsert = ops.length := by
      rw [← List.length_map (f := Task.ofOperation), List.countP_eq_length]
      intro t ht
      obtain ⟨op, _, rfl⟩ := List.mem_map.mp ht
      rfl
    rw [State.room, stages, all]
    rfl
  generalize (s.withTasks ops).room = n at count
  have load : (s.withTasks ops).load n = ops.length * (4 * n + 5) := by
    have each : (ops.map Task.ofOperation).map (Task.load n)
        = List.replicate ops.length (4 * n + 5) := by
      rw [List.map_map, ← List.map_const']
      rfl
    rw [State.load, stages, each, List.sum_replicate_nat]
  have bound : (s.withTasks ops).stepBound = 8 * (ops.length + 1) * (n + 2) := by
    unfold State.stepBound
    rw [count, show (s.withTasks ops).tasks.length = ops.length from List.length_map _]
    rfl
  rw [load, bound]
  calc ops.length * (4 * n + 5)
      ≤ (ops.length + 1) * (8 * (n + 2)) := Nat.mul_le_mul (Nat.le_succ _) (by omega)
    _ = 8 * (ops.length + 1) * (n + 2) := by
      rw [Nat.mul_left_comm, Nat.mul_assoc]

/-- A run of the scheduler ends all operations, whatever calls are refused. -/
theorem settle_ended (unlocked : s.locks.size = 0) (env : Environment γ) (g : γ) :
    ∀ t ∈ ((s.withTasks ops).settle env g).2.tasks, t.outcome?.isSome = true :=
  settleWithin_ended (List.length_eq_zero_iff.mp unlocked) env .start (Nat.le_refl _)
    (load_withTasks_le ops s)

end Run

end Store
end Sitemap
