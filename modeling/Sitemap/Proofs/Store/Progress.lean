/-
Tasks that take turns get to an end.

A task is stuck only while another holds its lock, or while tasks that it has started go on.  A task
that holds a lock is never stuck, and a task that was started by another starts none, so some task
can step in every state in which one has not ended: `exists_step`.
-/
import Sitemap.Proofs.Store.LockTable

namespace Sitemap
namespace Store

/-! ## The tasks of a deletion -/

/-- Whether a task has been started by the deletion `p` and goes on. -/
def Task.busyFor (p : Nat) (t : Task) : Bool :=
  match t.job, t.phase with
  | .eraseRow _ _ _, .done _ => false
  | .eraseRow _ _ q, _ => q = p
  | .operation _, _ => false

/-- How many tasks of the deletion `p` go on. -/
def busy (p : Nat) (ts : List Task) : Nat := ts.countP (·.busyFor p)

/-- A deletion that waits counts its tasks that go on, and tasks are started by deletions alone. -/
structure Gathers (ts : List Task) : Prop where
  counted : ∀ p t c n r, ts[p]? = some t → t.phase = .gathering c n r → n = busy p ts
  started : ∀ t ∈ ts, ∀ k id p, t.job = .eraseRow k id p →
    ∃ u name, ts[p]? = some u ∧ u.job = .operation (.deleteSitemap name) ∧ u.phase ≠ .idle

/-- A deletion has been told that one of its tasks has ended. -/
def Task.told (o : Outcome) (t : Task) : Task :=
  match t.phase with
  | .gathering count pending refusal =>
    { t with phase := .gathering count (pending - 1) (match refusal, o with
        | some e, _ => some e
        | none, .error e => some e
        | none, .ok _ => none) }
  | _ => t

theorem Task.told_job (o : Outcome) (t : Task) : (t.told o).job = t.job := by
  unfold told; split <;> rfl

theorem Task.told_phase_ne_idle {o : Outcome} {t : Task} (h : t.phase ≠ .idle) :
    (t.told o).phase ≠ .idle := by
  unfold told; split
  · simp
  · exact h

theorem Task.stage_busyFor (p : Nat) (t : Task) : t.stage.busyFor p = t.busyFor p := by
  unfold stage
  split
  · next e =>
    obtain ⟨job, q⟩ := t
    subst e
    cases job <;> rfl
  · rfl

theorem busy_stages (p : Nat) (s : State) : busy p s.stages = busy p s.tasks := by
  rw [busy, busy, State.stages, List.countP_map]
  exact congrArg (List.countP · s.tasks) (funext fun t => t.stage_busyFor p)

namespace State

theorem tell_getElem? (p : Nat) (o : Outcome) (s : State) (j : Nat) :
    (s.tell p o).tasks[j]? = if j = p then s.tasks[j]?.map (Task.told o) else s.tasks[j]? := by
  unfold tell
  split
  · next job count pending refusal h =>
    show (s.tasks.set p _)[j]? = _
    by_cases e : j = p
    · subst e
      rw [getElem?_set_of_some h, if_pos rfl, h]
      rfl
    · rw [List.getElem?_set_ne (Ne.symm e), if_neg e]
  · next h =>
    split
    · next e =>
      subst e
      cases e : s.tasks[j]? with
      | none => rfl
      | some t =>
        show some t = some (t.told o)
        unfold Task.told
        split
        · next he => exact absurd (by rw [e, ← he]) (h t.job _ _ _)
        · rfl
    · rfl

theorem finish_getElem? {s : State} {t : Task} {k : Key} {id : Int} {i p : Nat} {o : Outcome}
    (hj : t.job = .eraseRow k id p) (j : Nat) :
    (s.finish i t o).tasks[j]?
      = if j = p then (s.tasks.set i ⟨t.job, .done o⟩)[j]?.map (Task.told o)
        else (s.tasks.set i ⟨t.job, .done o⟩)[j]? := by
  have : s.finish i t o = (s.setPhase i t (.done o)).tell p o := by
    unfold finish
    rw [hj]
  rw [this, tell_getElem?]
  rfl

end State

theorem busy_finish {s : State} {t : Task} {k : Key} {id : Int} {i p : Nat} {o : Outcome}
    (ht : s.tasks[i]? = some t) (hj : t.job = .eraseRow k id p)
    (unfinished : ∀ o, t.phase ≠ .done o) (q : Nat) :
    busy q (s.finish i t o).tasks + (if q = p then 1 else 0) = busy q s.tasks := by
  have before : Task.busyFor q t.stage = decide (q = p) := by
    rw [Task.stage_busyFor]
    obtain ⟨job, ph⟩ := t
    subst hj
    cases ph with
    | done o => exact absurd rfl (unfinished o)
    | _ => simp [Task.busyFor, eq_comm]
  have after : Task.busyFor q ⟨t.job, .done o⟩ = false := by rw [hj]; rfl
  have := countP_set (b := ⟨t.job, .done o⟩) (·.busyFor q) (State.stages_of_tasks ht)
  rw [before, after] at this
  rw [← busy_stages, ← busy_stages, State.stages_finish, busy, busy]
  simpa using this

namespace Gathers

theorem set {ts : List Task} (h : Gathers ts) {i : Nat} {t : Task} {q : Phase}
    (ht : ts[i]? = some t) (counts : q.isGathering = false) (begun : q ≠ .idle)
    (same : ∀ p, Task.busyFor p ⟨t.job, q⟩ = t.busyFor p) : Gathers (ts.set i ⟨t.job, q⟩) where
  counted p u c n r hp he := by
    rcases getElem?_set_cases hp with ⟨_, rfl⟩ | ⟨_, hp⟩
    · rw [show q = .gathering c n r from he] at counts
      cases counts
    · have count := countP_set (b := ⟨t.job, q⟩) (·.busyFor p) ht
      rw [same p] at count
      rw [h.counted p u c n r hp he, busy, busy]
      omega
  started u hu k id p hj := by
    have old : ∃ u ∈ ts, u.job = .eraseRow k id p := by
      rcases List.mem_or_eq_of_mem_set hu with hu | rfl
      · exact ⟨u, hu, hj⟩
      · exact ⟨t, List.mem_of_getElem? ht, hj⟩
    obtain ⟨u, hu, hj⟩ := old
    obtain ⟨w, name, hw, hjob, hne⟩ := h.started u hu k id p hj
    by_cases e : p = i
    · subst e
      obtain rfl : t = w := Option.some.inj (ht.symm.trans hw)
      exact ⟨_, name, getElem?_set_of_some ht, hjob, begun⟩
    · exact ⟨w, name, by rwa [List.getElem?_set_ne (Ne.symm e)], hjob, hne⟩

variable {s : State}

theorem finish (h : Gathers s.tasks) {i : Nat} {t : Task} {o : Outcome}
    (ht : s.tasks[i]? = some t) (unfinished : ∀ o, t.phase ≠ .done o) :
    Gathers (s.finish i t o).tasks := by
  have plain : ∀ op, t.job = .operation op →
      (s.finish i t o).tasks = s.tasks.set i ⟨t.job, .done o⟩ := by
    intro op hj
    unfold State.finish
    rw [hj]
    split <;> simp_all [State.setPhase, State.setTask, State.report]
  cases hj : t.job with
  | operation op =>
    rw [plain op hj]
    refine h.set ht rfl (by simp) fun p => ?_
    obtain ⟨job, ph⟩ := t
    subst hj
    rfl
  | eraseRow k id p =>
    have tasks := State.finish_getElem? (s := s) (i := i) (o := o) hj
    have count := busy_finish (o := o) ht hj unfinished
    refine ⟨fun q u c n r hq he => ?_, fun u hu k' id' q hju => ?_⟩
    · have counted := count q
      rw [tasks] at hq
      split at hq
      · next e =>
        obtain ⟨w, hw, rfl⟩ := Option.map_eq_some_iff.mp hq
        rcases getElem?_set_cases hw with ⟨_, rfl⟩ | ⟨_, hw⟩
        · cases he
        · unfold Task.told at he
          split at he
          · next c' n' r' hc =>
            have := h.counted q w c' n' r' hw hc
            obtain ⟨_, rfl, _⟩ : c' = c ∧ n' - 1 = n ∧ _ := by simpa using he
            rw [if_pos e] at counted
            omega
          · next none => exact absurd he (none c n r)
      · next ne =>
        rcases getElem?_set_cases hq with ⟨_, rfl⟩ | ⟨_, hq⟩
        · cases he
        · rw [h.counted q u c n r hq he]
          rw [if_neg ne] at counted
          omega
    · have old : ∃ w ∈ s.tasks, w.job = u.job := by
        obtain ⟨j, hj⟩ := List.mem_iff_getElem?.mp hu
        rw [tasks] at hj
        have : ∃ w, (s.tasks.set i ⟨t.job, .done o⟩)[j]? = some w ∧ w.job = u.job := by
          split at hj
          · obtain ⟨w, hw, rfl⟩ := Option.map_eq_some_iff.mp hj
            exact ⟨w, hw, (Task.told_job o w).symm⟩
          · exact ⟨u, hj, rfl⟩
        obtain ⟨w, hw, hjob⟩ := this
        rcases getElem?_set_cases hw with ⟨_, rfl⟩ | ⟨_, hw⟩
        · exact ⟨t, List.mem_of_getElem? ht, hjob⟩
        · exact ⟨w, List.mem_of_getElem? hw, hjob⟩
      obtain ⟨w, hw, hjob⟩ := old
      obtain ⟨x, name, hx, hxjob, hxne⟩ := h.started w hw k' id' q (hjob.trans hju)
      have hx' : ∃ y, (s.tasks.set i ⟨t.job, .done o⟩)[q]? = some y ∧ y.job = x.job
          ∧ y.phase ≠ .idle := by
        by_cases e : q = i
        · subst e
          obtain rfl : t = x := Option.some.inj (ht.symm.trans hx)
          exact ⟨_, getElem?_set_of_some ht, rfl, by simp⟩
        · exact ⟨x, by rwa [List.getElem?_set_ne (Ne.symm e)], rfl, hxne⟩
      obtain ⟨y, hy, hyjob, hyne⟩ := hx'
      rw [tasks, hy]
      split
      · exact ⟨_, name, rfl, by rw [Task.told_job, hyjob, hxjob], Task.told_phase_ne_idle hyne⟩
      · exact ⟨y, name, rfl, hyjob.trans hxjob, hyne⟩

theorem list (h : Gathers s.tasks) {i : Nat} {name : Value} (rows : List Row)
    (ht : s.tasks[i]? = some ⟨.operation (.deleteSitemap name), .idle⟩) :
    Gathers (s.tasks.set i ⟨.operation (.deleteSitemap name),
      .gathering rows.length rows.length none⟩ ++ State.erasers i rows) := by
  have none_yet : busy i s.tasks = 0 := by
    refine List.countP_eq_zero.mpr fun u hu => ?_
    obtain ⟨job, ph⟩ := u
    cases job with
    | operation _ => simp [Task.busyFor]
    | eraseRow k id p =>
      have ne : p ≠ i := by
        rintro rfl
        obtain ⟨w, _, hw, _, begun⟩ := h.started _ hu k id p rfl
        obtain rfl := Option.some.inj (ht.symm.trans hw)
        exact begun rfl
      cases ph <;> simp [Task.busyFor, ne]
  have added (p : Nat) : busy p (State.erasers i rows) = if p = i then rows.length else 0 := by
    rw [busy, State.erasers, List.countP_map]
    by_cases e : p = i
    · rw [if_pos e, List.countP_eq_length]
      simp [Task.busyFor, e]
    · rw [if_neg e, List.countP_eq_zero]
      simp [Task.busyFor, Ne.symm e]
  have moved (p : Nat) : busy p (s.tasks.set i ⟨.operation (.deleteSitemap name),
      .gathering rows.length rows.length none⟩) = busy p s.tasks := by
    exact countP_set (b := ⟨.operation (.deleteSitemap name),
      .gathering rows.length rows.length none⟩) (·.busyFor p) ht
  refine ⟨fun p u c n r hp he => ?_, fun u hu k id p hj => ?_⟩
  · have total : busy p (s.tasks.set i ⟨.operation (.deleteSitemap name),
        .gathering rows.length rows.length none⟩ ++ State.erasers i rows)
        = busy p s.tasks + if p = i then rows.length else 0 := by
      rw [busy, List.countP_append]
      exact congrArg₂ (· + ·) (moved p) (added p)
    rw [total]
    rw [List.getElem?_append] at hp
    split at hp
    · rcases getElem?_set_cases hp with ⟨rfl, rfl⟩ | ⟨ne, hp⟩
      · obtain ⟨_, rfl, _⟩ : _ ∧ rows.length = n ∧ _ := by simpa using he
        rw [none_yet, if_pos rfl]
        omega
      · rw [h.counted p u c n r hp he, if_neg ne]
        omega
    · obtain ⟨_, _, rfl⟩ := State.mem_erasers.mp (List.mem_of_getElem? hp)
      cases he
  · have stays {q : Nat} {w : Task} (hw : s.tasks[q]? = some w) (ne : w.phase ≠ .idle) :
        (s.tasks.set i ⟨.operation (.deleteSitemap name),
          .gathering rows.length rows.length none⟩ ++ State.erasers i rows)[q]? = some w := by
      have hqi : i ≠ q := by
        rintro rfl
        obtain rfl := Option.some.inj (ht.symm.trans hw)
        exact ne rfl
      rw [List.getElem?_append_left (by simpa using (List.getElem?_eq_some_iff.mp hw).1),
        List.getElem?_set_ne hqi, hw]
    rcases List.mem_append.mp hu with hu | hu
    · rcases List.mem_or_eq_of_mem_set hu with hu | rfl
      · obtain ⟨w, name', hw, hjob, ne⟩ := h.started u hu k id p hj
        exact ⟨w, name', stays hw ne, hjob, ne⟩
      · cases hj
    · obtain ⟨_, _, rfl⟩ := State.mem_erasers.mp hu
      obtain rfl : i = p := (Job.eraseRow.inj hj).2.2
      refine ⟨⟨.operation (.deleteSitemap name), .gathering rows.length rows.length none⟩, name, ?_,
        rfl, by simp⟩
      rw [List.getElem?_append_left (by simpa using (List.getElem?_eq_some_iff.mp ht).1)]
      exact getElem?_set_of_some ht

theorem of_turn {v : State} {i : Nat} {t : Task} {refused : Option Refusal}
    (h : Gathers s.tasks) (ht : s.tasks[i]? = some t) (turn : Turn s i t refused v) :
    Gathers v.tasks := by
  cases turn with
  | @ask job k _ _ _ => exact h.set ht rfl (by simp) fun p => by cases job <;> rfl
  | turnedAway _ _ => exact h.finish ht (by simp)
  | read _ _ => exact h.set ht rfl (by simp) fun p => rfl
  | @list name rows _ => exact h.list rows ht
  | @take job l _ _ =>
    refine h.set ht (State.afterLock_isGathering job l) ?_ fun p => ?_
    · cases job <;> simp [State.afterLock]
    · cases job <;> rfl
  | @fail job q l e lock _ _ =>
    refine h.set ht rfl (by simp) fun p => ?_
    cases job with
    | operation _ => rfl
    | eraseRow _ _ _ => cases q <;> first | rfl | cases lock
  | @find op k l key =>
    refine h.set ht (State.afterFind_isGathering _ _ _) ?_ fun p => rfl
    unfold State.afterFind
    split <;> simp
  | clear _ => exact h.set ht rfl (by simp) fun p => rfl
  | insert _ => exact h.set ht rfl (by simp) fun p => rfl
  | update _ => exact h.set ht rfl (by simp) fun p => rfl
  | erase => exact h.set ht rfl (by simp) fun p => rfl
  | @leave _ l _ _ => exact finish (s := { s with locks := s.locks.leave l }) h ht (by simp)
  | gathered _ => exact h.finish ht (by simp)

end Gathers

theorem gathers_of_reachable {u : State} {s : State} {ops : List Operation}
    (h : Reachable (s.withTasks ops) u) : Gathers u.tasks := by
  induction h with
  | start =>
    refine ⟨fun p t c n r hp he => ?_, fun t ht k id p hj => ?_⟩
    · obtain ⟨op, _, rfl⟩ := List.mem_map.mp (List.mem_of_getElem? hp)
      cases he
    · obtain ⟨op, _, rfl⟩ := List.mem_map.mp ht
      cases hj
  | @step u v i refused reached taken ih =>
    obtain ⟨t, ht, turn⟩ :=
      State.turn_of_step (fits_of_reachable reached (State.fits_withTasks ops s)) taken
    exact ih.of_turn ht turn

/-! ## Some task can step -/

/-- Whether a task can take its next step. -/
def Task.ready (ls : Locks) (t : Task) : Bool :=
  match t.phase with
  | .waiting l => !ls.held l
  | .gathering _ pending refusal => pending = 0 || refusal.isSome
  | .done _ => false
  | _ => true

theorem State.step_isSome {s : State} {i : Nat} {t : Task} (fits : t.Fits)
    (ht : s.tasks[i]? = some t) (refused : Option Refusal) :
    (s.step i refused).isSome = t.ready s.locks := by
  obtain ⟨job, p⟩ := t
  unfold step
  rw [ht]
  have key {l : Nat} (hl : Task.lock? ⟨job, p⟩ = some l) : ∃ k, job.lockKey? = some k :=
    Option.isSome_iff_exists.mp (lockKey?_isSome_of_lock? fits hl)
  cases p with
  | idle =>
    cases hk : job.lockKey? with
    | none => simp [stepTask, hk, Task.ready]
    | some k => cases hl : k.lockable <;> simp [stepTask, hk, hl, Task.ready]
  | waiting l => cases hl : s.locks.held l <;> simp [stepTask, hl, Task.ready]
  | gathering c n r =>
    cases r with
    | some e => simp [stepTask, Task.ready]
    | none =>
      cases n with
      | succ n => simp [stepTask, Task.ready]
      | zero =>
        cases job with
        | eraseRow _ _ _ => simp [stepTask, Task.ready]
        | operation op => cases op <;> simp [stepTask, Task.ready]
  | done o => rfl
  | finding l | clearing l ids | updating l id | erasing l | leaving l o =>
    obtain ⟨k, hk⟩ := key rfl
    simp [stepTask, hk, Task.ready]

theorem Task.ready_of_holds {t : Task} {ls : Locks} (h : t.holds = true) : t.ready ls = true := by
  obtain ⟨job, p⟩ := t
  cases p <;> first | rfl | cases h

/-- A task that is not ready waits for a lock that another task holds, or for a task that it has
started, or has ended. -/
theorem exists_ready {s : State} (locks : LockTable s.claims s.locks) (gathers : Gathers s.tasks)
    (fits : ∀ t ∈ s.tasks, t.Fits) {t : Task} (ht : t ∈ s.tasks) (unfinished : t.outcome? = none) :
    ∃ u ∈ s.tasks, u.ready s.locks = true := by
  have waits {l : Nat} {w : Task} (hw : w ∈ s.tasks) (hp : w.phase = .waiting l) :
      ∃ u ∈ s.tasks, u.ready s.locks = true := by
    by_cases free : s.locks.held l = true
    · have hl : w.claim.lock? = some l := by unfold Task.claim Task.lock?; rw [hp]
      have mem : w.claim ∈ s.claims := by rw [State.claims_eq]; exact List.mem_map_of_mem hw
      obtain ⟨_, k', _, entry, _⟩ := locks.listed _ mem l hl
      obtain ⟨c, hc, _, holds⟩ := (locks.marked _ entry).mp free
      rw [State.claims_eq] at hc
      obtain ⟨u, hu, rfl⟩ := List.mem_map.mp hc
      exact ⟨u, hu, Task.ready_of_holds holds⟩
    · exact ⟨w, hw, by unfold Task.ready; rw [hp]; simpa using free⟩
  -- A task without tasks of its own.
  have single {w : Task} (hw : w ∈ s.tasks) (unfinished : ∀ o, w.phase ≠ .done o)
      (own : ∀ c n r, w.phase ≠ .gathering c n r) : ∃ u ∈ s.tasks, u.ready s.locks = true := by
    cases e : w.phase with
    | waiting l => exact waits hw e
    | gathering c n r => exact absurd e (own c n r)
    | done o => exact absurd e (unfinished o)
    | _ => exact ⟨w, hw, by unfold Task.ready; rw [e]⟩
  by_cases ready : t.ready s.locks = true
  · exact ⟨t, ht, ready⟩
  cases e : t.phase with
  | gathering c n r =>
    obtain ⟨p, hp⟩ := List.mem_iff_getElem?.mp ht
    have counted := gathers.counted p t c n r hp e
    have pos : 0 < busy p s.tasks := by
      unfold Task.ready at ready
      simp only [e, Bool.or_eq_true, decide_eq_true_eq, not_or] at ready
      omega
    obtain ⟨u, hu, hbusy⟩ := List.countP_pos_iff.mp pos
    obtain ⟨job, q⟩ := u
    cases job with
    | operation op => cases hbusy
    | eraseRow k id p' =>
      refine single hu (fun o e => ?_) (fun c n r e => ?_)
      · rw [show q = .done o from e] at hbusy; cases hbusy
      · have := fits _ hu
        rw [show q = .gathering c n r from e] at this
        cases this
  | done o => unfold Task.outcome? at unfinished; rw [e] at unfinished; cases unfinished
  | _ => exact single ht (by simp [e]) (by simp [e])

/-- While an operation goes on, some task can step, whether its call is refused or not. -/
theorem exists_step {s u : State} {ops : List Operation} (empty : s.locks.entries = [])
    (h : Reachable (s.withTasks ops) u) {t : Task} (ht : t ∈ u.tasks)
    (unfinished : t.outcome? = none) : ∃ i, ∀ refused, (u.step i refused).isSome = true := by
  have fits := fits_of_reachable h (State.fits_withTasks ops s)
  obtain ⟨w, hw, ready⟩ := exists_ready (lockTable_of_reachable empty h) (gathers_of_reachable h) fits
    ht unfinished
  obtain ⟨i, hi⟩ := List.mem_iff_getElem?.mp hw
  exact ⟨i, fun refused => (State.step_isSome (fits w hw) hi refused).trans ready⟩

end Store
end Sitemap
