/-
What is recorded along a run: the calls of each task, and the refusals that tasks end with.

Tasks take turns in any order, and an environment decides which calls are refused; `Recorded` are
the runs of this kind, of which the scheduler's is one (`recorded_settle`).

What a task has called is told by the phase that it has come to: `Course`.  A task that has found
the rows of its key has called for them, one that clears them has deleted some, and the call that
was refused is the last.  One step keeps this (`Course.of_turn`), as it makes the call that belongs
to its phase.  For one operation by itself `Accounts` adds the tasks that there are.
-/
import Sitemap.Proofs.Store.Locking
import Sitemap.Proofs.Store.Settling

namespace Sitemap
namespace Store

/-! ## Recording -/

/-- Calls in order, each with the reason why it was refused, if it was. -/
abbrev Calls := List (CallKind × Option Refusal)

/-- The refusal that is an outcome. -/
def Outcome.refusal? : Outcome → Option Refusal
  | .error e => some e
  | .ok _ => none

/-- The refusal that the task of an index has ended with. -/
def State.failure? (i : Nat) (s : State) : Option Refusal :=
  (s.outcome? i).bind Outcome.refusal?

structure Account where
  /-- The calls of each task. -/
  calls : Nat → Calls := fun _ => []
  /-- The tasks that have ended with a refusal, in the order in which they ended. -/
  failures : List (Nat × Refusal) := []

/-- Add a step of the task `i`, which leads from `u` to `v`. -/
def Account.record (i : Nat) (refused : Option Refusal) (u v : State) (a : Account) : Account where
  calls := Function.update a.calls i
    (a.calls i ++ (u.call? i).toList.map fun c => (c.kind, refused))
  failures := a.failures ++ (v.failure? i).toList.map fun e => (i, e)

/-- Whether the next step of a task is refused a call, as an environment decides. -/
def State.judged {γ : Type} (env : Environment γ) (g : γ) (i : Nat) (s : State) :
    Option Refusal × γ :=
  match s.call? i with
  | some c => env.judge g s c
  | none => (none, g)

/-- A run in which tasks take turns in any order, with what is recorded of it. -/
inductive Recorded {γ : Type} (env : Environment γ) (g : γ) (s : State) :
    Account → γ → State → Prop where
  | start : Recorded env g s {} g s
  | step {a : Account} {h : γ} {u v : State} {i : Nat} (before : Recorded env g s a h u)
      (taken : u.step i (u.judged env h i).1 = some v) :
      Recorded env g s (a.record i (u.judged env h i).1 u v) (u.judged env h i).2 v

section Runs

variable {γ : Type} {env : Environment γ} {g h : γ} {s u : State} {a : Account}

theorem Recorded.reachable (run : Recorded env g s a h u) : Reachable s u := by
  induction run with
  | start => exact .start
  | step _ taken ih => exact ih.step taken

theorem State.stepIn_eq (i : Nat) (s : State) :
    s.stepIn env g i = ((s.judged env g i).2, (s.step i (s.judged env g i).1).getD s) := rfl

theorem State.step_of_canStep {i : Nat} (fits : ∀ t ∈ s.tasks, t.Fits) (can : s.canStep i = true)
    (refused : Option Refusal) : ∃ v, s.step i refused = some v := by
  obtain ⟨w, first⟩ := Option.isSome_iff_exists.mp can
  obtain ⟨t, ht, _⟩ := State.turn_of_step fits first
  have fit := fits t (List.mem_of_getElem? ht)
  have ready := State.step_isSome fit ht none
  rw [first] at ready
  exact Option.isSome_iff_exists.mp ((State.step_isSome fit ht refused).trans ready.symm)

/-- What is recorded while the tasks of these indices take turns, where they can. -/
def recordTurns (env : Environment γ) : List Nat → Account → γ → State → Account × γ × State
  | [], a, g, s => (a, g, s)
  | i :: turns, a, g, s =>
    match s.step i (s.judged env g i).1 with
    | some v => recordTurns env turns (a.record i (s.judged env g i).1 s v) (s.judged env g i).2 v
    | none => recordTurns env turns a g s

theorem recorded_recordTurns (turns : List Nat) (run : Recorded env g s a h u) :
    let x := recordTurns env turns a h u
    Recorded env g s x.1 x.2.1 x.2.2 := by
  induction turns generalizing a h u with
  | nil => exact run
  | cons i turns ih =>
    unfold recordTurns
    split
    · next v taken => exact ih (run.step taken)
    · exact ih run

/-- The turns that the scheduler lets tasks take are recorded as well. -/
theorem recorded_settleWithin (fits : ∀ t ∈ s.tasks, t.Fits) (bound : Nat) (queue : List Nat)
    (run : Recorded env g s a h u) :
    ∃ a', Recorded env g s a' (State.settleWithin env bound queue h u).1
      (State.settleWithin env bound queue h u).2 := by
  induction bound generalizing queue a h u with
  | zero => exact ⟨a, run⟩
  | succ bound ih =>
    unfold State.settleWithin
    split
    · exact ⟨a, run⟩
    · next i rest ready =>
      obtain ⟨v, taken⟩ := State.step_of_canStep (fits_of_reachable run.reachable fits)
        (State.mem_of_ready ready) (u.judged env h i).1
      have next := run.step taken
      have stepped : (u.stepIn env h i).2 = v := by
        rw [State.stepIn_eq, taken]
        rfl
      rw [← stepped] at next
      exact ih _ next

theorem recorded_settle (fits : ∀ t ∈ s.tasks, t.Fits) (env : Environment γ) (g : γ) :
    ∃ a, Recorded env g s a (s.settle env g).1 (s.settle env g).2 :=
  recorded_settleWithin fits s.stepBound [] .start

end Runs

/-! ## Jobs -/

namespace State

def jobs (s : State) : List Job := s.tasks.map Task.job

variable {s : State} {i : Nat} {t : Task}

theorem jobs_setTask (ht : s.tasks[i]? = some t) {u : Task} (job : u.job = t.job) :
    (s.setTask i u).jobs = s.jobs := by
  have here : (s.tasks.map Task.job)[i]? = some t.job := by
    rw [List.getElem?_map, ht]
    rfl
  show (s.tasks.set i u).map Task.job = s.tasks.map Task.job
  rw [List.map_set, job]
  exact set_eq_self here

theorem jobs_setPhase (ht : s.tasks[i]? = some t) (p : Phase) :
    (s.setPhase i t p).jobs = s.jobs :=
  jobs_setTask ht rfl

theorem jobs_tell (parent : Nat) (o : Outcome) (s : State) : (s.tell parent o).jobs = s.jobs := by
  unfold tell
  split
  · next there => exact jobs_setTask there rfl
  · rfl

theorem jobs_finish (ht : s.tasks[i]? = some t) (o : Outcome) :
    (s.finish i t o).jobs = s.jobs := by
  unfold finish
  split
  · exact jobs_setPhase ht _
  · exact jobs_setPhase ht _
  · rw [jobs_tell]
    exact jobs_setPhase ht _

theorem jobs_getElem? (ht : s.tasks[i]? = some t) : s.jobs[i]? = some t.job := by
  rw [jobs, List.getElem?_map, ht]
  rfl

end State

/-- A turn starts no task, unless it lists the rows of a document. -/
theorem Turn.jobs {s v : State} {i : Nat} {t : Task} {refused : Option Refusal}
    (turn : Turn s i t refused v) (ht : s.tasks[i]? = some t) :
    (v.jobs = s.jobs ∧ ∀ name, t = ⟨.operation (.deleteSitemap name), .idle⟩ → refused ≠ none) ∨
      ∃ name, t = ⟨.operation (.deleteSitemap name), .idle⟩ ∧ refused = none ∧ v.jobs = s.jobs
        ++ ((s.tables .sitemaps).ofName name).map fun r => .eraseRow (r.key .sitemaps) r.id i := by
  cases turn with
  | take _ | find _ | clear _ | insert _ | update _ | erase =>
    exact .inl ⟨State.jobs_setPhase ht _, by simp⟩
  | ask key _ =>
    refine .inl ⟨State.jobs_setPhase ht _, ?_⟩
    rintro name ⟨⟩
    cases key
  | turnedAway key _ =>
    refine .inl ⟨State.jobs_finish ht _, ?_⟩
    rintro name ⟨⟩
    cases key
  | read _ answer =>
    refine .inl ⟨State.jobs_setPhase ht _, ?_⟩
    rintro name ⟨⟩ none
    exact answer none name rfl
  | fail lock _ _ =>
    refine .inl ⟨State.jobs_setPhase ht _, ?_⟩
    rintro name ⟨⟩
    cases lock
  | @leave _ l _ o =>
    exact .inl ⟨State.jobs_finish (s := { s with locks := s.locks.leave l }) ht o, by simp⟩
  | gathered _ => exact .inl ⟨State.jobs_finish ht _, by simp⟩
  | @list name rows listed =>
    refine .inr ⟨name, rfl, rfl, ?_⟩
    show ((s.setPhase i _ _).tasks ++ State.erasers i rows).map Task.job = _
    rw [List.map_append, ← listed]
    congr 1
    · exact State.jobs_setPhase ht _
    · rw [State.erasers, List.map_map]
      rfl

/-! ## The calls of a task -/

/-- A call for the rows of a key, and deletions of some of them. -/
def served (n : Nat) : Calls := (.find, none) :: List.replicate n (.delete, none)

/-- Whether an operation puts a row in the place of those that it finds. -/
def Operation.creates : Operation → Bool
  | .createSitemap _ _ _ | .createCache _ _ => true
  | _ => false

/-- What a task has called when it ends. -/
inductive Closed : Job → Outcome → Calls → Prop where
  | turnedAway {job : Job} {k : Key} (key : job.lockKey? = some k) (lockable : k.lockable = false) :
      Closed job (.error (.shape .unhashable)) []
  | findRefused {op : Operation} (e : Refusal) : Closed (.operation op) (.error e) [(.find, some e)]
  | deleteRefused {op : Operation} (n : Nat) (e : Refusal) (creates : op.creates = true) :
      Closed (.operation op) (.error e) (served n ++ [(.delete, some e)])
  | createRefused {op : Operation} (n : Nat) (e : Refusal) (creates : op.creates = true) :
      Closed (.operation op) (.error e) (served n ++ [(.create, some e)])
  | updateRefused {json name : Value} (e : Refusal) :
      Closed (.operation (.updateCache json name)) (.error e) (served 0 ++ [(.update, some e)])
  | eraseRefused {k : Key} {id : Int} {parent : Nat} (e : Refusal) (lockable : k.lockable = true) :
      Closed (.eraseRow k id parent) (.error e) [(.delete, some e)]
  /-- One of its tasks has failed. -/
  | gathered {name : Value} (e : Refusal) :
      Closed (.operation (.deleteSitemap name)) (.error e) (served 0)
  | found {op : Operation} (r : Option Row) : Closed (.operation op) (.ok r) (served 0)
  | created {op : Operation} (n : Nat) (r : Option Row) (creates : op.creates = true) :
      Closed (.operation op) (.ok r) (served n ++ [(.create, none)])
  | updated {json name : Value} (r : Option Row) :
      Closed (.operation (.updateCache json name)) (.ok r) (served 0 ++ [(.update, none)])
  | erased {k : Key} {id : Int} {parent : Nat} (lockable : k.lockable = true) :
      Closed (.eraseRow k id parent) (.ok none) [(.delete, none)]

/-- Whether a task in this phase has made no call yet. -/
def Phase.fresh : Phase → Bool
  | .idle | .waiting _ | .finding _ | .erasing _ => true
  | _ => false

/-- What a task has called by the phase that it has come to. -/
inductive Course : Task → Calls → Prop where
  | begun {job : Job} {p : Phase} (fresh : p.fresh = true) : Course ⟨job, p⟩ []
  | clearing {op : Operation} {l : Nat} {ids : List Int} (n : Nat) (creates : op.creates = true) :
      Course ⟨.operation op, .clearing l ids⟩ (served n)
  | updating {json name : Value} {l : Nat} {id : Int} :
      Course ⟨.operation (.updateCache json name), .updating l id⟩ (served 0)
  | gathering {name : Value} {count pending : Nat} {refusal : Option Refusal} :
      Course ⟨.operation (.deleteSitemap name), .gathering count pending refusal⟩ (served 0)
  | leaving {job : Job} {l : Nat} {o : Outcome} {cs : Calls} (closed : Closed job o cs) :
      Course ⟨job, .leaving l o⟩ cs
  | done {job : Job} {o : Outcome} {cs : Calls} (closed : Closed job o cs) :
      Course ⟨job, .done o⟩ cs

theorem served_succ (n : Nat) : served n ++ [(.delete, none)] = served (n + 1) := by
  show (CallKind.find, none) :: (List.replicate n (CallKind.delete, none) ++ _) = _
  rw [served, List.replicate_succ']

theorem Task.call?_of_key {job : Job} {k : Key} (key : job.lockKey? = some k) :
    Task.call? ⟨job, .idle⟩ = none := by
  cases job with
  | eraseRow _ _ _ => rfl
  | operation op =>
    cases op with
    | createSitemap _ _ _ | createCache _ _ | updateCache _ _ => rfl
    | getSitemap _ _ | deleteSitemap _ | getCache _ => cases key

/-- A task that looks without a lock calls for rows. -/
theorem Task.call?_of_look {op : Operation} (key : (Job.operation op).lockKey? = none) :
    ∃ c, Task.call? ⟨.operation op, .idle⟩ = some c ∧ c.kind = .find := by
  cases op with
  | createSitemap _ _ _ | createCache _ _ | updateCache _ _ => cases key
  | getSitemap _ _ | deleteSitemap _ | getCache _ => exact ⟨_, rfl, rfl⟩

theorem Task.call?_waiting (job : Job) (l : Nat) : Task.call? ⟨job, .waiting l⟩ = none := by
  cases job with
  | eraseRow _ _ _ => rfl
  | operation op => cases op <;> rfl

theorem Task.call?_leaving (job : Job) (l : Nat) (o : Outcome) :
    Task.call? ⟨job, .leaving l o⟩ = none := by
  cases job with
  | eraseRow _ _ _ => rfl
  | operation op => cases op <;> rfl

section

variable {op : Operation} {k : Key} (key : (Job.operation op).lockKey? = some k) (l : Nat)
include key

theorem Task.call?_finding :
    ∃ c, Task.call? ⟨.operation op, .finding l⟩ = some c ∧ c.kind = .find := by
  cases op with
  | createSitemap _ _ _ | createCache _ _ | updateCache _ _ => exact ⟨_, rfl, rfl⟩
  | getSitemap _ _ | deleteSitemap _ | getCache _ => cases key

theorem Task.call?_clearing (id : Int) (ids : List Int) :
    ∃ c, Task.call? ⟨.operation op, .clearing l (id :: ids)⟩ = some c ∧ c.kind = .delete := by
  cases op with
  | createSitemap _ _ _ | createCache _ _ | updateCache _ _ => exact ⟨_, rfl, rfl⟩
  | getSitemap _ _ | deleteSitemap _ | getCache _ => cases key

theorem Task.call?_cleared :
    ∃ c, Task.call? ⟨.operation op, .clearing l []⟩ = some c ∧ c.kind = .create := by
  cases op with
  | createSitemap _ _ _ | createCache _ _ | updateCache _ _ => exact ⟨_, rfl, rfl⟩
  | getSitemap _ _ | deleteSitemap _ | getCache _ => cases key

theorem Task.call?_updating (id : Int) :
    ∃ c, Task.call? ⟨.operation op, .updating l id⟩ = some c ∧ c.kind = .update := by
  cases op with
  | createSitemap _ _ _ | createCache _ _ | updateCache _ _ => exact ⟨_, rfl, rfl⟩
  | getSitemap _ _ | deleteSitemap _ | getCache _ => cases key

end

theorem Task.call?_erasing (k : Key) (id : Int) (parent l : Nat) :
    ∃ c, Task.call? ⟨.eraseRow k id parent, .erasing l⟩ = some c ∧ c.kind = .delete :=
  ⟨_, rfl, rfl⟩

/-- A task that looks without a lock ends at once, unless it starts tasks of its own. -/
theorem State.of_look {s v : State} {i : Nat} {op : Operation} {refused : Option Refusal}
    (ht : s.tasks[i]? = some ⟨.operation op, .idle⟩) (key : (Job.operation op).lockKey? = none)
    (taken : s.step i refused = some v) :
    (∃ e, refused = some e ∧ v = s.setPhase i ⟨.operation op, .idle⟩ (.done (.error e))) ∨
      refused = none ∧ ((∃ r, v = s.setPhase i ⟨.operation op, .idle⟩ (.done (.ok r))) ∨
        ∃ name, op = .deleteSitemap name) := by
  have looks : s.look i ⟨.operation op, .idle⟩ refused = v := by
    unfold step at taken
    rw [ht] at taken
    simp only [stepTask, key] at taken
    exact Option.some.inj taken
  subst looks
  cases refused with
  | some e => exact .inl ⟨e, rfl, rfl⟩
  | none =>
    refine .inr ⟨rfl, ?_⟩
    cases op with
    | createSitemap _ _ _ | createCache _ _ | updateCache _ _ => cases key
    | getSitemap _ _ | getCache _ => exact .inl ⟨_, rfl⟩
    | deleteSitemap name => exact .inr ⟨name, rfl⟩

/-- The calls that a step adds to those of its task. -/
def Task.adds (t : Task) (refused : Option Refusal) : Calls :=
  t.call?.toList.map fun c => (c.kind, refused)

theorem Task.adds_of_none {t : Task} (h : t.call? = none) (refused : Option Refusal)
    (cs : Calls) : cs ++ t.adds refused = cs := by
  rw [adds, h]
  exact List.append_nil cs

theorem Task.adds_of_some {t : Task} {kind : CallKind}
    (h : ∃ c, t.call? = some c ∧ c.kind = kind) (refused : Option Refusal) :
    t.adds refused = [(kind, refused)] := by
  obtain ⟨c, called, rfl⟩ := h
  rw [adds, called]
  rfl

/-- The step of a task adds the call of its phase, and the phase that follows tells it. -/
theorem Course.of_turn {s v : State} {i : Nat} {t : Task} {refused : Option Refusal} {cs : Calls}
    (course : Course t.stage cs) (fits : t.Fits) (ht : s.tasks[i]? = some t)
    (locked : ∀ l k, t.lock? = some l → t.job.lockKey? = some k → k.lockable = true)
    (taken : s.step i refused = some v) (turn : Turn s i t refused v) :
    ∃ u, v.stages[i]? = some u ∧ Course u (cs ++ t.adds refused) := by
  have hi := State.stages_of_tasks ht
  have moved {p : Phase} {w : State} {ds : Calls} (stages : w.stages = s.stages.set i ⟨t.job, p⟩)
      (next : Course ⟨t.job, p⟩ ds) : ∃ u, w.stages[i]? = some u ∧ Course u ds :=
    ⟨_, by rw [stages, getElem?_set_of_some hi], next⟩
  cases turn with
  | @ask job k _ key lockable =>
    rw [Task.adds_of_none (Task.call?_of_key key)]
    cases course
    exact moved (State.stages_setPhase _ rfl) (.begun rfl)
  | @turnedAway job k _ key lockable =>
    rw [Task.adds_of_none (Task.call?_of_key key)]
    cases course
    exact moved (State.stages_finish _ _ _ _) (.done (.turnedAway key lockable))
  | @read op _ _ key answer =>
    rw [Task.adds_of_some (Task.call?_of_look key)]
    cases course
    rcases State.of_look ht key taken with ⟨e, rfl, same⟩ | ⟨rfl, ⟨r, same⟩ | ⟨name, rfl⟩⟩
    · rw [same]
      exact moved (State.stages_setPhase _ rfl) (.done (.findRefused e))
    · rw [same]
      exact moved (State.stages_setPhase _ rfl) (.done (.found r))
    · exact absurd rfl (answer rfl name)
  | @list name rows listed =>
    cases course
    refine ⟨⟨.operation (.deleteSitemap name), .gathering 0 0 none⟩, ?_, .gathering⟩
    have bound := (List.getElem?_eq_some_iff.mp hi).1
    rw [State.stages_list, List.getElem?_append_left (by rwa [List.length_set]),
      getElem?_set_of_some hi]
  | @take job l _ free =>
    rw [Task.adds_of_none (Task.call?_waiting job l)]
    cases course
    refine moved (State.stages_setPhase _ (State.afterLock_isGathering job l)) (.begun ?_)
    cases job <;> rfl
  | @fail job p l e lock holds working =>
    refine moved (State.stages_setPhase _ rfl) (.leaving ?_)
    obtain ⟨k, key⟩ := Option.isSome_iff_exists.mp (lockKey?_isSome_of_lock? fits lock)
    cases p with
    | idle | waiting _ | gathering _ _ _ | done _ => cases holds
    | leaving l o => exact absurd rfl (working l o)
    | finding l =>
      cases job with
      | eraseRow _ _ _ => cases fits
      | operation op =>
        rw [Task.adds_of_some (Task.call?_finding key l)]
        cases course
        exact .findRefused e
    | clearing l ids =>
      cases job with
      | eraseRow _ _ _ => cases fits
      | operation op =>
        cases course with
        | begun fresh => cases fresh
        | clearing n creates =>
          cases ids with
          | nil =>
            rw [Task.adds_of_some (Task.call?_cleared key l)]
            exact .createRefused n e creates
          | cons id ids =>
            rw [Task.adds_of_some (Task.call?_clearing key l id ids)]
            exact .deleteRefused n e creates
    | updating l id =>
      cases job with
      | eraseRow _ _ _ => cases fits
      | operation op =>
        rw [Task.adds_of_some (Task.call?_updating key l id)]
        cases course with
        | begun fresh => cases fresh
        | updating => exact .updateRefused e
    | erasing l =>
      cases job with
      | operation _ => cases fits
      | eraseRow k id parent =>
        rw [Task.adds_of_some (Task.call?_erasing k id parent l)]
        cases course
        exact .eraseRefused e (locked l k rfl rfl)
  | @find op k l key =>
    rw [Task.adds_of_some (Task.call?_finding key l)]
    cases course
    refine moved (State.stages_setPhase _ (State.afterFind_isGathering _ _ _)) ?_
    cases op with
    | updateCache json name =>
      cases (s.tables k.table).ofKey k with
      | nil => exact .leaving (.found none)
      | cons r rows => exact .updating
    | createSitemap _ _ _ | createCache _ _ => exact .clearing 0 rfl
    | getSitemap _ _ | deleteSitemap _ | getCache _ => cases key
  | @clear op k l id ids key =>
    rw [Task.adds_of_some (Task.call?_clearing key l id ids)]
    cases course with
    | begun fresh => cases fresh
    | clearing n creates =>
      rw [served_succ]
      exact moved (State.stages_setPhase _ rfl) (.clearing (n + 1) creates)
  | @insert op k l key =>
    rw [Task.adds_of_some (Task.call?_cleared key l)]
    cases course with
    | begun fresh => cases fresh
    | clearing n creates =>
      exact moved (State.stages_setPhase _ rfl) (.leaving (.created n _ creates))
  | @update op k l id key =>
    rw [Task.adds_of_some (Task.call?_updating key l id)]
    cases course with
    | begun fresh => cases fresh
    | updating => exact moved (State.stages_setPhase _ rfl) (.leaving (.updated _))
  | @erase k id parent l =>
    rw [Task.adds_of_some (Task.call?_erasing k id parent l)]
    cases course
    exact moved (State.stages_setPhase _ rfl) (.leaving (.erased (locked l k rfl rfl)))
  | @leave job l _ o =>
    rw [Task.adds_of_none (Task.call?_leaving job l o)]
    cases course with
    | begun fresh => cases fresh
    | leaving closed => exact moved (State.stages_finish _ _ _ _) (.done closed)
  | @gathered name count pending refusal _ ns ended =>
    cases course with
    | begun fresh => cases fresh
    | gathering =>
      refine moved (State.stages_finish _ _ _ _) (.done ?_)
      cases refusal with
      | some e => exact .gathered e
      | none => exact .found none

/-! ## One operation by itself -/

/-- The jobs that an operation starts: to delete each row of a document that it has found. -/
def State.started (op : Operation) (cs : Calls) (s : State) : List Job :=
  match op with
  | .deleteSitemap name =>
    if (.find, none) ∈ cs then
      ((s.tables .sitemaps).ofName name).map fun r => .eraseRow (r.key .sitemaps) r.id 0
    else []
  | _ => []

/-- What a run of one operation by itself has come to, as it is recorded. -/
structure Accounts (s : State) (op : Operation) (a : Account) (u : State) : Prop where
  jobs : u.jobs = .operation op :: s.started op (a.calls 0)
  course : ∀ i t, u.stages[i]? = some t → Course t (a.calls i)
  silent : ∀ i, u.jobs.length ≤ i → a.calls i = []
  failed : ∀ i e, (i, e) ∈ a.failures ↔ u.failure? i = some e
  /-- Nothing is written but by a call. -/
  unwritten : (∀ i kind, (kind, none) ∈ a.calls i → kind = .find) → u.tables = s.tables

section Steps

variable {s u v : State} {op : Operation} {a : Account} {i j : Nat} {t : Task}
  {refused : Option Refusal}

theorem State.outcome?_eq (i : Nat) (s : State) :
    s.outcome? i = s.stages[i]?.bind Task.outcome? := by
  rw [outcome?, stages_getElem?]
  cases s.tasks[i]? with
  | none => rfl
  | some t => exact (Task.stage_outcome? t).symm

theorem Outcome.refusal?_eq_some {o : Outcome} {e : Refusal} :
    Outcome.refusal? o = some e ↔ o = .error e := by
  cases o <;> simp [refusal?]

theorem State.failure?_eq_some {e : Refusal} :
    s.failure? i = some e ↔ s.outcome? i = some (.error e) := by
  unfold failure?
  simp [Option.bind_eq_some_iff, Outcome.refusal?_eq_some]

theorem Turn.outcome?_self (turn : Turn u i t refused v) (ht : u.tasks[i]? = some t) :
    u.outcome? i = none := by
  have unfinished : t.outcome? = none := by
    cases turn with
    | @fail job p l e lock _ _ =>
      cases p with
      | done o => cases lock
      | _ => rfl
    | _ => rfl
  rw [State.outcome?, ht]
  exact unfinished

/-- No other task ends. -/
theorem Turn.outcome?_of_ne (turn : Turn u i t refused v) (ht : u.tasks[i]? = some t)
    (ne : j ≠ i) : v.outcome? j = u.outcome? j := by
  rw [State.outcome?_eq, State.outcome?_eq]
  cases there : u.stages[j]? with
  | some w => rw [turn.stage_of_ne ne there]
  | none =>
    cases new : v.stages[j]? with
    | none => rfl
    | some w =>
      rcases turn.stage_cases new with ⟨rfl, _⟩ | ⟨_, old⟩ | ⟨_, _, _, rfl⟩
      · exact absurd rfl ne
      · rw [there] at old
        cases old
      · rfl

theorem Account.record_self (ht : u.tasks[i]? = some t) :
    (a.record i refused u v).calls i = a.calls i ++ t.adds refused := by
  show Function.update _ i _ i = _
  rw [Function.update_self, State.call?, ht]
  rfl

theorem Account.record_of_ne (ne : j ≠ i) : (a.record i refused u v).calls j = a.calls j :=
  Function.update_of_ne ne _ _

theorem Account.mem_record {x : CallKind × Option Refusal} (ht : u.tasks[i]? = some t)
    (h : x ∈ a.calls j) : x ∈ (a.record i refused u v).calls j := by
  by_cases e : j = i
  · rw [e, record_self ht, ← e]
    exact List.mem_append_left _ h
  · rwa [record_of_ne e]

/-- A deletion of a document makes one call itself, at its start. -/
theorem Task.call?_of_deletion {name : Value} {p : Phase} (begun : p ≠ .idle) :
    Task.call? ⟨.operation (.deleteSitemap name), p⟩ = none := by
  cases p with
  | idle => exact absurd rfl begun
  | clearing l ids => cases ids <;> rfl
  | _ => rfl

/-- A task whose next step deletes a row, for a key. -/
inductive Task.Removes : Task → Key → Int → Prop where
  | cleared {op : Operation} {k : Key} {l : Nat} {id : Int} {ids : List Int}
      (key : (Job.operation op).lockKey? = some k) :
      Removes ⟨.operation op, .clearing l (id :: ids)⟩ k id
  | erased {k : Key} {id : Int} {parent l : Nat} :
      Removes ⟨.eraseRow k id parent, .erasing l⟩ k id

/-- What changes a table is a call that is not refused, and a call that only looks changes none. -/
theorem Turn.tables_cases (turn : Turn u i t refused v) :
    (v.tables = u.tables ∧ ∀ kind, (kind, none) ∈ t.adds refused → kind = .find) ∨
      (∃ k id, t.Removes k id ∧ t.adds refused = [(.delete, none)] ∧
        v.tables = (u.erase k.table id).tables) ∨
      ∃ kind, kind ≠ .find ∧ kind ≠ .delete ∧ t.adds refused = [(kind, none)] := by
  have silent {w : State} (same : w.tables = u.tables) (none' : t.call? = none) :
      w.tables = u.tables ∧ ∀ kind, (kind, none) ∈ t.adds refused → kind = .find := by
    refine ⟨same, fun kind called => ?_⟩
    rw [Task.adds, none'] at called
    cases called
  have looked {w : State} (same : w.tables = u.tables)
      (call : ∃ c, t.call? = some c ∧ c.kind = .find) :
      w.tables = u.tables ∧ ∀ kind, (kind, none) ∈ t.adds refused → kind = .find := by
    refine ⟨same, fun kind called => ?_⟩
    rw [Task.adds_of_some call] at called
    exact congrArg Prod.fst (List.mem_singleton.mp called)
  cases turn with
  | ask key _ => exact .inl (silent rfl (Task.call?_of_key key))
  | turnedAway key _ => exact .inl (silent (State.finish_tables _ _ _ _) (Task.call?_of_key key))
  | read key _ => exact .inl (looked rfl (Task.call?_of_look key))
  | list _ => exact .inl (looked rfl (Task.call?_of_look rfl))
  | take _ => exact .inl (silent rfl (Task.call?_waiting _ _))
  | fail _ _ _ =>
    refine .inl ⟨rfl, fun kind called => ?_⟩
    obtain ⟨c, _, e⟩ := List.mem_map.mp called
    cases e
  | find key => exact .inl (looked rfl (Task.call?_finding key _))
  | leave => exact .inl (silent (State.finish_tables _ _ _ _) (Task.call?_leaving _ _ _))
  | gathered _ =>
    exact .inl (silent (State.finish_tables _ _ _ _) (Task.call?_of_deletion (by simp)))
  | @clear op k l id ids key =>
    have adds := Task.adds_of_some (Task.call?_clearing key l id ids) none
    exact .inr (.inl ⟨k, id, .cleared key, adds, rfl⟩)
  | @erase k id parent l =>
    have adds := Task.adds_of_some (Task.call?_erasing k id parent l) none
    exact .inr (.inl ⟨k, id, .erased, adds, rfl⟩)
  | @insert op k l key =>
    exact .inr (.inr ⟨.create, by simp, by simp, Task.adds_of_some (Task.call?_cleared key l) none⟩)
  | @update op k l id key =>
    exact .inr (.inr ⟨.update, by simp, by simp,
      Task.adds_of_some (Task.call?_updating key l id) none⟩)

namespace Accounts

theorem start (s : State) (op : Operation) : Accounts s op {} (s.withTasks [op]) where
  jobs := by cases op <;> rfl
  course i t hi := by
    rw [State.stages_withTasks] at hi
    obtain rfl := List.mem_singleton.mp (List.mem_of_getElem? hi)
    exact .begun rfl
  silent i _ := rfl
  failed i e := by
    constructor
    · intro mem
      cases mem
    · intro failed
      rw [State.failure?_eq_some, State.outcome?_eq, State.stages_withTasks] at failed
      obtain ⟨t, ht, ended⟩ := Option.bind_eq_some_iff.mp failed
      obtain rfl := List.mem_singleton.mp (List.mem_of_getElem? ht)
      cases ended
  unwritten _ := rfl

/-- The first task is the operation. -/
theorem job (h : Accounts s op a u) (ht : u.tasks[0]? = some t) : t.job = .operation op := by
  have first := State.jobs_getElem? ht
  rw [h.jobs] at first
  exact (Option.some.inj first).symm

/-- Any other task deletes a row of a document, for the operation. -/
theorem exists_row (h : Accounts s op a u) {job : Job} (hj : u.jobs[i + 1]? = some job) :
    ∃ name r, op = .deleteSitemap name ∧ (.find, none) ∈ a.calls 0 ∧
      ((s.tables .sitemaps).ofName name)[i]? = some r ∧
      job = .eraseRow (r.key .sitemaps) r.id 0 := by
  rw [h.jobs, List.getElem?_cons_succ] at hj
  unfold State.started at hj
  split at hj
  · next name =>
    split at hj
    · next found =>
      rw [List.getElem?_map] at hj
      obtain ⟨r, there, e⟩ := Option.map_eq_some_iff.mp hj
      exact ⟨name, r, rfl, found, there, e.symm⟩
    · cases hj
  · cases hj

theorem eq_zero_of_operation (h : Accounts s op a u) {other : Operation}
    (ht : u.tasks[i]? = some t) (job : t.job = .operation other) : i = 0 := by
  cases i with
  | zero => rfl
  | succ i =>
    obtain ⟨_, r, _, _, _, e⟩ := h.exists_row (State.jobs_getElem? ht)
    rw [job] at e
    cases e

theorem silent_of_alone (h : Accounts s op a u) (alone : u.jobs = [.operation op]) :
    a.calls (i + 1) = [] := by
  refine h.silent _ ?_
  rw [alone]
  exact Nat.succ_le_succ (Nat.zero_le i)

/-- Until the operation has called for rows, nothing is called and nothing is started. -/
theorem untouched (h : Accounts s op a u) (none : a.calls 0 = []) :
    u.jobs = [.operation op] ∧ u.tables = s.tables := by
  have jobs : u.jobs = [.operation op] := by
    rw [h.jobs, none]
    cases op <;> rfl
  refine ⟨jobs, h.unwritten fun i kind called => ?_⟩
  have silent : a.calls i = [] := by
    cases i with
    | zero => exact none
    | succ i => exact h.silent_of_alone jobs
  rw [silent] at called
  cases called

theorem calls_of_idle (h : Accounts s op a u) (ht : u.tasks[i]? = some t)
    (idle : t.phase = .idle) : a.calls i = [] := by
  have course := h.course i _ (State.stages_of_tasks ht)
  obtain ⟨job, p⟩ := t
  obtain rfl : p = .idle := idle
  generalize a.calls i = cs at course
  cases course
  rfl

theorem jobs_step (h : Accounts s op a u) (ht : u.tasks[i]? = some t)
    (turn : Turn u i t refused v) :
    v.jobs = .operation op :: s.started op ((a.record i refused u v).calls 0) := by
  rcases turn.jobs ht with ⟨same, listing⟩ | ⟨name, rfl, rfl, more⟩
  · rw [same, h.jobs]
    congr 1
    by_cases zero : i = 0
    · subst zero
      rw [Account.record_self ht]
      have job := h.job ht
      obtain ⟨job', p⟩ := t
      obtain rfl : job' = .operation op := job
      cases op with
      | deleteSitemap name =>
        have same : (.find, none) ∈ a.calls 0
            ++ Task.adds ⟨.operation (.deleteSitemap name), p⟩ refused ↔
              (.find, none) ∈ a.calls 0 := by
          by_cases begun : p = .idle
          · subst begun
            rw [Task.adds_of_some (Task.call?_of_look rfl)]
            have isRefused := listing name rfl
            simp [Ne.symm isRefused]
          · rw [Task.adds_of_none (Task.call?_of_deletion begun)]
        unfold State.started
        simp only [same]
      | _ => rfl
    · rw [Account.record_of_ne (Ne.symm zero)]
  · obtain rfl := h.eq_zero_of_operation ht rfl
    obtain rfl : Operation.deleteSitemap name = op := Job.operation.inj (h.job ht)
    have none := h.calls_of_idle ht rfl
    obtain ⟨jobs, tables⟩ := h.untouched none
    rw [more, jobs, tables, Account.record_self ht, none,
      Task.adds_of_some (Task.call?_of_look rfl)]
    rfl

theorem course_step (h : Accounts s op a u) (fits : t.Fits) (ht : u.tasks[i]? = some t)
    (locked : ∀ l k, t.lock? = some l → t.job.lockKey? = some k → k.lockable = true)
    (taken : u.step i refused = some v) (turn : Turn u i t refused v) {w : Task}
    (hj : v.stages[j]? = some w) : Course w ((a.record i refused u v).calls j) := by
  by_cases own : j = i
  · subst own
    obtain ⟨w', there, course⟩ :=
      (h.course j _ (State.stages_of_tasks ht)).of_turn fits ht locked taken turn
    obtain rfl := Option.some.inj (hj.symm.trans there)
    rwa [Account.record_self ht]
  · rw [Account.record_of_ne own]
    cases before : u.stages[j]? with
    | some x =>
      obtain rfl := Option.some.inj (hj.symm.trans (turn.stage_of_ne own before))
      exact h.course j w before
    | none =>
      have length : u.jobs.length ≤ j := by
        have := List.getElem?_eq_none_iff.mp before
        rwa [State.stages, List.length_map, ← List.length_map (f := Task.job)] at this
      rw [h.silent j length]
      rcases turn.stage_cases hj with ⟨same, _⟩ | ⟨_, old⟩ | ⟨_, _, _, rfl⟩
      · exact absurd same own
      · rw [before] at old
        cases old
      · exact .begun rfl

theorem step (h : Accounts s op a u) (fits : t.Fits) (ht : u.tasks[i]? = some t)
    (locked : ∀ l k, t.lock? = some l → t.job.lockKey? = some k → k.lockable = true)
    (taken : u.step i refused = some v) (turn : Turn u i t refused v) :
    Accounts s op (a.record i refused u v) v where
  jobs := h.jobs_step ht turn
  course j w hj := h.course_step fits ht locked taken turn hj
  silent j bound := by
    have more : u.jobs.length ≤ v.jobs.length := by
      rcases turn.jobs ht with ⟨same, _⟩ | ⟨_, _, _, more⟩
      · rw [same]
      · rw [more, List.length_append]
        exact Nat.le_add_right _ _
    have own : j ≠ i := by
      rintro rfl
      have := (List.getElem?_eq_some_iff.mp (State.jobs_getElem? ht)).1
      omega
    rw [Account.record_of_ne own]
    exact h.silent j (Nat.le_trans more bound)
  failed j e := by
    show (j, e) ∈ a.failures ++ (v.failure? i).toList.map (fun e => (i, e)) ↔ _
    rw [List.mem_append, h.failed]
    by_cases own : j = i
    · subst own
      have unfinished : u.failure? j = none := by
        unfold State.failure?
        rw [turn.outcome?_self ht]
        rfl
      rw [unfinished]
      simp
    · have same : v.failure? j = u.failure? j := by
        unfold State.failure?
        rw [turn.outcome?_of_ne ht own]
      rw [same]
      simp [Ne.symm own]
  unwritten looks := by
    have writes {kind : CallKind} (adds : t.adds refused = [(kind, none)]) : kind = .find := by
      refine looks i kind ?_
      rw [Account.record_self ht, adds]
      exact List.mem_append_right _ (List.mem_singleton_self _)
    rcases turn.tables_cases with ⟨same, _⟩ | ⟨_, _, _, adds, _⟩ | ⟨_, other, _, adds⟩
    · rw [same]
      exact h.unwritten fun j kind called => looks j kind (Account.mem_record ht called)
    · cases writes adds
    · exact absurd (writes adds) other

theorem of_recorded {γ : Type} {env : Environment γ} {g h : γ}
    (run : Recorded env g (s.withTasks [op]) a h u) : Accounts s op a u := by
  induction run with
  | start => exact .start s op
  | step before taken ih =>
    have fits := fits_of_reachable before.reachable (State.fits_withTasks _ s)
    obtain ⟨t, ht, turn⟩ := State.turn_of_step fits taken
    refine ih.step (fits t (List.mem_of_getElem? ht)) ht (fun l k lock key => ?_) taken turn
    exact lockable_of_reachable before.reachable _ l _ k (State.stages_of_tasks ht)
      ((Task.stage_lock? t).trans lock) ((congrArg Job.lockKey? (Task.stage_job t)).trans key)

end Accounts

end Steps

end Store
end Sitemap
