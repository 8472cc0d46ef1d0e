/-
What one step of the store can do.

`Turn` lists the thirteen things that a step comes to, one constructor for each, and `turn_of_step`
says that there are no others.  What holds in every state is proved by going through them, and no
later proof opens `State.step` again.

A deletion counts its tasks down while other tasks take their turns, so a step may change the
numbers of a second task.  `State.stages` are the tasks without those numbers: a step sets the stage
of the task that takes it, and adds the tasks of a deletion behind the others.
-/
import Mathlib
import Sitemap.Store.Perform

namespace Sitemap
namespace Store

/-! ## Lists in which one element is replaced -/

section Replace

variable {α : Type} {xs : List α} {i j : Nat} {a b c : α}

theorem set_eq_self (h : xs[i]? = some a) : xs.set i a = xs := by
  refine List.ext_getElem? fun j => ?_
  rw [List.getElem?_set]
  split
  · next e => subst e; rw [h, if_pos (List.getElem?_eq_some_iff.mp h).1]
  · rfl

theorem getElem?_set_cases (h : (xs.set i a)[j]? = some b) :
    j = i ∧ b = a ∨ j ≠ i ∧ xs[j]? = some b := by
  rw [List.getElem?_set] at h
  split at h
  · next e =>
    split at h
    · exact .inl ⟨e.symm, (Option.some.inj h).symm⟩
    · cases h
  · next ne => exact .inr ⟨fun e => ne e.symm, h⟩

theorem getElem?_set_of_some (h : xs[i]? = some a) : (xs.set i b)[i]? = some b :=
  List.getElem?_set_self (List.getElem?_eq_some_iff.mp h).1

theorem mem_set_self (h : xs[i]? = some a) : b ∈ xs.set i b :=
  List.mem_set (List.getElem?_eq_some_iff.mp h).1 b

theorem mem_set_of_ne (h : xs[i]? = some a) (hc : c ∈ xs) (ne : c ≠ a) : c ∈ xs.set i b := by
  obtain ⟨j, hj⟩ := List.mem_iff_getElem?.mp hc
  have hij : i ≠ j := by
    rintro rfl
    exact ne (Option.some.inj (hj.symm.trans h))
  exact List.mem_of_getElem? (by rwa [List.getElem?_set_ne hij])

theorem sum_set (f : α → Nat) (h : xs[i]? = some a) :
    ((xs.set i b).map f).sum + f a = (xs.map f).sum + f b := by
  induction xs generalizing i with
  | nil => simp at h
  | cons x xs ih =>
    cases i with
    | zero =>
      obtain rfl : x = a := by simpa using h
      simp only [List.set_cons_zero, List.map_cons, List.sum_cons]
      omega
    | succ i =>
      have := ih (i := i) (by simpa using h)
      simp only [List.set_cons_succ, List.map_cons, List.sum_cons]
      omega

theorem countP_eq_sum (p : α → Bool) (xs : List α) :
    xs.countP p = (xs.map fun x => if p x = true then 1 else 0).sum := by
  induction xs with
  | nil => rfl
  | cons x xs ih =>
    simp only [List.countP_cons, List.map_cons, List.sum_cons]
    omega

theorem countP_set (p : α → Bool) (h : xs[i]? = some a) :
    (xs.set i b).countP p + (if p a = true then 1 else 0)
      = xs.countP p + (if p b = true then 1 else 0) := by
  rw [countP_eq_sum, countP_eq_sum]
  exact sum_set _ h

end Replace

/-! ## Tasks and their phases -/

/-- Whether a task with this job can be in this phase. -/
def Job.fits : Job → Phase → Bool
  | _, .idle => true
  | _, .done _ => true
  | job, .waiting _ => job.lockKey?.isSome
  | job, .leaving _ _ => job.lockKey?.isSome
  | .operation op, .finding _ => (Job.operation op).lockKey?.isSome
  | .operation (.createSitemap _ _ _), .clearing _ _ => true
  | .operation (.createCache _ _), .clearing _ _ => true
  | .operation (.updateCache _ _), .updating _ _ => true
  | .operation (.deleteSitemap _), .gathering _ _ _ => true
  | .eraseRow _ _ _, .erasing _ => true
  | _, _ => false

/-- A task whose phase belongs to its job. -/
def Task.Fits (t : Task) : Prop := t.job.fits t.phase = true

/-- Whether a task in this phase waits for tasks of its own. -/
def Phase.isGathering : Phase → Bool
  | .gathering _ _ _ => true
  | _ => false

theorem State.afterLock_isGathering (job : Job) (l : Nat) :
    (afterLock job l).isGathering = false := by cases job <;> rfl

theorem State.afterFind_isGathering (job : Job) (l : Nat) (rows : List Row) :
    (afterFind job l rows).isGathering = false := by
  unfold afterFind; split <;> rfl

/-- The task without the numbers that a deletion counts its tasks with. -/
def Task.stage (t : Task) : Task :=
  match t.phase with
  | .gathering _ _ _ => { t with phase := .gathering 0 0 none }
  | _ => t

namespace Task

theorem stage_job (t : Task) : t.stage.job = t.job := by
  unfold stage; split <;> rfl

theorem stage_lock? (t : Task) : t.stage.lock? = t.lock? := by
  unfold stage; split <;> simp_all [lock?]

theorem stage_holds (t : Task) : t.stage.holds = t.holds := by
  unfold stage; split <;> simp_all [holds]

theorem stage_outcome? (t : Task) : t.stage.outcome? = t.outcome? := by
  unfold stage; split <;> simp_all [outcome?]

theorem stage_eq_self {t : Task} (h : t.phase.isGathering = false) : t.stage = t := by
  unfold stage
  split
  · next e => rw [e] at h; cases h
  · rfl

theorem eq_of_stage_eq {t u : Task} (h : t.stage = u) (hu : u.phase.isGathering = false) :
    t = u := by
  unfold stage at h
  split at h
  · subst h; cases hu
  · exact h

theorem stage_fits (t : Task) : t.stage.Fits ↔ t.Fits := by
  obtain ⟨job, p⟩ := t
  cases p with
  | gathering c n r =>
    show job.fits (.gathering 0 0 none) = true ↔ job.fits (.gathering c n r) = true
    cases job with
    | operation op => cases op <;> rfl
    | eraseRow _ _ _ => rfl
  | _ => rfl

end Task

namespace State

def stages (s : State) : List Task := s.tasks.map Task.stage

theorem stages_getElem? (s : State) (i : Nat) : s.stages[i]? = s.tasks[i]?.map Task.stage :=
  List.getElem?_map

theorem stages_of_tasks {s : State} {i : Nat} {t : Task} (ht : s.tasks[i]? = some t) :
    s.stages[i]? = some t.stage := by rw [stages_getElem?, ht]; rfl

theorem stages_setTask (i : Nat) (t : Task) (s : State) :
    (s.setTask i t).stages = s.stages.set i t.stage := by
  simp [stages, setTask, List.map_set]

theorem stages_setPhase {i : Nat} {t : Task} {p : Phase} (s : State) (h : p.isGathering = false) :
    (s.setPhase i t p).stages = s.stages.set i ⟨t.job, p⟩ := by
  rw [setPhase, stages_setTask, Task.stage_eq_self h]

theorem stages_tell (parent : Nat) (o : Outcome) (s : State) : (s.tell parent o).stages = s.stages := by
  unfold tell
  split
  · next job count pending refusal h =>
    rw [stages_setTask]
    have hs : s.stages[parent]? = some ⟨job, .gathering 0 0 none⟩ := by
      rw [stages_getElem?, h]; rfl
    exact set_eq_self hs
  · rfl

theorem tell_tables (parent : Nat) (o : Outcome) (s : State) :
    (s.tell parent o).tables = s.tables := by unfold tell; split <;> rfl

theorem tell_locks (parent : Nat) (o : Outcome) (s : State) :
    (s.tell parent o).locks = s.locks := by unfold tell; split <;> rfl

theorem report_nil (s : State) : s.report [] = s := by simp [report]

theorem finish_tables (i : Nat) (t : Task) (o : Outcome) (s : State) :
    (s.finish i t o).tables = s.tables := by
  unfold finish; split <;> first | rfl | exact tell_tables _ _ _

theorem finish_locks (i : Nat) (t : Task) (o : Outcome) (s : State) :
    (s.finish i t o).locks = s.locks := by
  unfold finish; split <;> first | rfl | exact tell_locks _ _ _

theorem stages_finish (i : Nat) (t : Task) (o : Outcome) (s : State) :
    (s.finish i t o).stages = s.stages.set i ⟨t.job, .done o⟩ := by
  unfold finish
  split
  · exact stages_setPhase s rfl
  · exact stages_setPhase s rfl
  · rw [stages_tell]; exact stages_setPhase s rfl

end State

open State in
/-- What a step of the task `t`, which has the index `i`, comes to. -/
inductive Turn (s : State) (i : Nat) : Task → Option Refusal → State → Prop where
  /-- It asks for the lock of its key. -/
  | ask {job : Job} {k : Key} {refused : Option Refusal} (key : job.lockKey? = some k)
      (lockable : k.lockable = true) :
      Turn s i ⟨job, .idle⟩ refused
        ({ s with locks := s.locks.ask k }.setPhase i ⟨job, .idle⟩ (.waiting (s.locks.lockFor k)))
  /-- It has a key that cannot be locked. -/
  | turnedAway {job : Job} {k : Key} {refused : Option Refusal} (key : job.lockKey? = some k)
      (lockable : k.lockable = false) :
      Turn s i ⟨job, .idle⟩ refused (s.finish i ⟨job, .idle⟩ (.error (.shape .unhashable)))
  /-- It reads a row, or is refused the rows that it asks for. -/
  | read {op : Operation} {refused : Option Refusal} {o : Outcome}
      (key : (Job.operation op).lockKey? = none)
      (answer : refused = none → ∀ name, op ≠ .deleteSitemap name) :
      Turn s i ⟨.operation op, .idle⟩ refused (s.setPhase i ⟨.operation op, .idle⟩ (.done o))
  /-- It lists the rows of a document and starts a task for each. -/
  | list {name : Value} {rows : List Row} (listed : rows = (s.tables .sitemaps).ofName name) :
      Turn s i ⟨.operation (.deleteSitemap name), .idle⟩ none
        { s.setPhase i ⟨.operation (.deleteSitemap name), .idle⟩
            (.gathering rows.length rows.length none) with
          tasks := (s.setPhase i ⟨.operation (.deleteSitemap name), .idle⟩
            (.gathering rows.length rows.length none)).tasks ++ erasers i rows }
  /-- It is given the lock. -/
  | take {job : Job} {l : Nat} {refused : Option Refusal} (free : s.locks.held l = false) :
      Turn s i ⟨job, .waiting l⟩ refused
        ({ s with locks := s.locks.take l }.setPhase i ⟨job, .waiting l⟩ (afterLock job l))
  /-- A call that it makes with the lock is refused. -/
  | fail {job : Job} {p : Phase} {l : Nat} {e : Refusal}
      (lock : Task.lock? ⟨job, p⟩ = some l) (holds : Task.holds ⟨job, p⟩ = true)
      (working : ∀ l o, p ≠ .leaving l o) :
      Turn s i ⟨job, p⟩ (some e) (s.setPhase i ⟨job, p⟩ (.leaving l (.error e)))
  /-- It finds the rows of its key. -/
  | find {op : Operation} {k : Key} {l : Nat} (key : (Job.operation op).lockKey? = some k) :
      Turn s i ⟨.operation op, .finding l⟩ none
        (s.setPhase i ⟨.operation op, .finding l⟩
          (afterFind (.operation op) l ((s.tables k.table).ofKey k)))
  /-- It deletes one of the rows that it has found. -/
  | clear {op : Operation} {k : Key} {l : Nat} {id : Int} {ids : List Int}
      (key : (Job.operation op).lockKey? = some k) :
      Turn s i ⟨.operation op, .clearing l (id :: ids)⟩ none
        ((s.erase k.table id).setPhase i ⟨.operation op, .clearing l (id :: ids)⟩ (.clearing l ids))
  /-- It inserts a row of its key. -/
  | insert {op : Operation} {k : Key} {l : Nat} (key : (Job.operation op).lockKey? = some k) :
      Turn s i ⟨.operation op, .clearing l []⟩ none
        ((s.insert k op.data).setPhase i ⟨.operation op, .clearing l []⟩
          (.leaving l (.ok (some ((s.tables k.table).newRow op.data)))))
  /-- It updates the row that it has found. -/
  | update {op : Operation} {k : Key} {l : Nat} {id : Int}
      (key : (Job.operation op).lockKey? = some k) :
      Turn s i ⟨.operation op, .updating l id⟩ none
        ((s.update k.table id op.data).setPhase i ⟨.operation op, .updating l id⟩
          (.leaving l (.ok (((s.tables k.table).update id op.data).find? id))))
  /-- It deletes its row for the deletion of a document. -/
  | erase {k : Key} {id : Int} {parent l : Nat} :
      Turn s i ⟨.eraseRow k id parent, .erasing l⟩ none
        ((s.erase k.table id).setPhase i ⟨.eraseRow k id parent, .erasing l⟩ (.leaving l (.ok none)))
  /-- It gives its lock back. -/
  | leave {job : Job} {l : Nat} {refused : Option Refusal} {o : Outcome} :
      Turn s i ⟨job, .leaving l o⟩ refused
        ({ s with locks := s.locks.leave l }.finish i ⟨job, .leaving l o⟩ o)
  /-- All its tasks have ended, or one has failed. -/
  | gathered {name : Value} {count pending : Nat} {refusal : Option Refusal}
      {refused : Option Refusal} {ns : List Notice}
      (ended : pending = 0 ∨ refusal ≠ none) :
      Turn s i ⟨.operation (.deleteSitemap name), .gathering count pending refusal⟩ refused
        ((s.finish i ⟨.operation (.deleteSitemap name), .gathering count pending refusal⟩
          (match refusal with | some e => .error e | none => .ok none)).report ns)

namespace State

theorem turn_of_work {s : State} {i : Nat} {job : Job} {p : Phase} {k : Key}
    {refused : Option Refusal} (fits : job.fits p = true) (key : job.lockKey? = some k)
    (holds : Task.holds ⟨job, p⟩ = true) : Turn s i ⟨job, p⟩ refused (s.work i ⟨job, p⟩ k refused) := by
  cases p with
  | idle | waiting _ | gathering _ _ _ | done _ => simp [Task.holds] at holds
  | leaving l o =>
    have h : s.work i ⟨job, .leaving l o⟩ k refused
        = { s with locks := s.locks.leave l }.finish i ⟨job, .leaving l o⟩ o := by
      cases job <;> rfl
    rw [h]
    exact .leave
  | finding l =>
    cases refused with
    | some e => exact .fail rfl rfl (by simp)
    | none =>
      cases job with
      | operation op => exact .find key
      | eraseRow _ _ _ => simp [Job.fits] at fits
  | clearing l ids =>
    cases job with
    | eraseRow _ _ _ => simp [Job.fits] at fits
    | operation op =>
      cases refused with
      | some e => cases ids <;> exact .fail rfl rfl (by simp)
      | none =>
        cases ids with
        | nil => exact .insert key
        | cons id ids => exact .clear key
  | updating l id =>
    cases job with
    | eraseRow _ _ _ => simp [Job.fits] at fits
    | operation op =>
      cases refused with
      | some e => exact .fail rfl rfl (by simp)
      | none =>
        have h : s.work i ⟨.operation op, .updating l id⟩ k none
            = (s.update k.table id op.data).setPhase i ⟨.operation op, .updating l id⟩
                (.leaving l (.ok (((s.tables k.table).update id op.data).find? id))) := by
          simp [work, update, recordWrites, setTable]
        rw [h]
        exact .update key
  | erasing l =>
    cases job with
    | operation op => simp [Job.fits] at fits
    | eraseRow key' id parent =>
      obtain rfl : key' = k := by simpa [Job.lockKey?] using key
      cases refused with
      | some e => exact .fail rfl rfl (by simp)
      | none => exact .erase

/-- A step of a task whose phase fits its job is one of the turns. -/
theorem turn_of_step {s v : State} {i : Nat} {refused : Option Refusal}
    (fits : ∀ t ∈ s.tasks, t.Fits) (h : s.step i refused = some v) :
    ∃ t, s.tasks[i]? = some t ∧ Turn s i t refused v := by
  unfold step at h
  split at h
  · next t ht =>
    have hfit : t.job.fits t.phase = true := fits t (List.mem_of_getElem? ht)
    refine ⟨t, ht, ?_⟩
    obtain ⟨job, p⟩ := t
    cases p with
    | idle =>
      cases key : job.lockKey? with
      | some k =>
        simp only [stepTask, key] at h
        split at h
        · next lockable => cases h; exact .ask key lockable
        · next lockable => cases h; exact .turnedAway key (by simpa using lockable)
      | none =>
        simp only [stepTask, key] at h
        cases job with
        | eraseRow _ _ _ => simp [Job.lockKey?] at key
        | operation op =>
          cases refused with
          | some e => cases op <;> cases h <;> exact .read key (by simp)
          | none =>
            cases op with
            | deleteSitemap name => cases h; exact .list rfl
            | getSitemap _ _ | getCache _ => cases h; exact .read key (by simp)
            | createSitemap _ _ _ | createCache _ _ | updateCache _ _ => simp [Job.lockKey?] at key
    | waiting l =>
      simp only [stepTask] at h
      split at h
      · cases h
      · next free => cases h; exact .take (by simpa using free)
    | gathering count pending refusal =>
      cases job with
      | eraseRow _ _ _ => simp [Job.fits] at hfit
      | operation op =>
        cases op with
        | deleteSitemap name =>
          cases refusal with
          | some e =>
            simp only [stepTask, Option.some.injEq] at h
            rw [← h, ← report_nil (s.finish i _ _)]
            exact .gathered (.inr (by simp))
          | none =>
            cases pending with
            | zero => cases h; exact .gathered (.inl rfl)
            | succ n => simp [stepTask] at h
        | createSitemap _ _ _ | getSitemap _ _ | createCache _ _ | updateCache _ _ | getCache _ =>
          simp [Job.fits] at hfit
    | done o => simp [stepTask] at h
    | finding l | clearing l ids | updating l id | erasing l | leaving l o =>
      cases key : job.lockKey? with
      | none => simp [stepTask, key] at h
      | some k =>
        simp only [stepTask, key, Option.some.injEq] at h
        subst h
        exact turn_of_work hfit key rfl
  · cases h

end State

theorem State.mem_erasers {i : Nat} {rows : List Row} {t : Task} :
    t ∈ erasers i rows ↔ ∃ r ∈ rows, t = ⟨.eraseRow (r.key .sitemaps) r.id i, .idle⟩ := by
  simp [erasers, eq_comm]

theorem State.erasers_stage (i : Nat) (rows : List Row) :
    (erasers i rows).map Task.stage = erasers i rows := by
  simp [erasers, Task.stage]

theorem State.stages_withTasks (ops : List Operation) (s : State) :
    (s.withTasks ops).stages = ops.map Task.ofOperation := by
  simp [stages, withTasks, Task.ofOperation, Task.stage]

theorem State.fits_withTasks (ops : List Operation) (s : State) :
    ∀ t ∈ (s.withTasks ops).tasks, t.Fits := by
  intro t ht
  obtain ⟨op, _, rfl⟩ := List.mem_map.mp ht
  rfl

theorem lockKey?_isSome_of_lock? {t : Task} {l : Nat} (fits : t.Fits) (h : t.lock? = some l) :
    t.job.lockKey?.isSome = true := by
  obtain ⟨job, p⟩ := t
  cases job with
  | eraseRow _ _ _ => rfl
  | operation op =>
    unfold Task.Fits at fits
    cases p with
    | idle | gathering _ _ _ | done _ => simp [Task.lock?] at h
    | _ => cases op <;> first | rfl | simp [Job.fits, Job.lockKey?] at fits

theorem fits_afterFind {op : Operation} {k : Key} (key : (Job.operation op).lockKey? = some k)
    (l : Nat) (rows : List Row) :
    (Job.operation op).fits (State.afterFind (.operation op) l rows) = true := by
  cases op with
  | updateCache json name => cases rows <;> rfl
  | createSitemap _ _ _ | createCache _ _ => cases rows <;> rfl
  | getSitemap _ _ | deleteSitemap _ | getCache _ => simp [Job.lockKey?] at key

theorem State.stages_list (i : Nat) (t : Task) (c n : Nat) (rows : List Row) (s : State) :
    State.stages { s.setPhase i t (.gathering c n none) with
        tasks := (s.setPhase i t (.gathering c n none)).tasks ++ erasers i rows }
      = s.stages.set i ⟨t.job, .gathering 0 0 none⟩ ++ erasers i rows := by
  rw [stages, List.map_append, erasers_stage]
  exact congrArg (· ++ _) (stages_setTask i _ s)

/-- The phases that a task can go on to, with the numbers of a waiting deletion left out. -/
inductive Follows (s : State) : Task → Phase → Prop where
  | waiting {job : Job} {k : Key} (l : Nat) (key : job.lockKey? = some k)
      (lockable : k.lockable = true) : Follows s ⟨job, .idle⟩ (.waiting l)
  | gathering (name : Value) :
      Follows s ⟨.operation (.deleteSitemap name), .idle⟩ (.gathering 0 0 none)
  | locked (job : Job) (l : Nat) : Follows s ⟨job, .waiting l⟩ (State.afterLock job l)
  | found {op : Operation} {k : Key} (l : Nat) (key : (Job.operation op).lockKey? = some k) :
      Follows s ⟨.operation op, .finding l⟩
        (State.afterFind (.operation op) l ((s.tables k.table).ofKey k))
  | cleared (op : Operation) (l : Nat) (id : Int) (ids : List Int) :
      Follows s ⟨.operation op, .clearing l (id :: ids)⟩ (.clearing l ids)
  | leaving {t : Task} {l : Nat} (o : Outcome) (lock : t.lock? = some l) (holds : t.holds = true)
      (working : ∀ l o, t.phase ≠ .leaving l o) : Follows s t (.leaving l o)
  | ended {t : Task} (o : Outcome) (unfinished : t.outcome? = none) : Follows s t (.done o)

theorem Follows.fits {s : State} {t : Task} {p : Phase} (h : Follows s t p) (fits : t.Fits) :
    t.job.fits p = true := by
  cases h with
  | waiting l key _ => simp [Job.fits, key]
  | gathering name => rfl
  | locked job l =>
    cases job with
    | operation op => exact fits
    | eraseRow _ _ _ => rfl
  | found l key => exact fits_afterFind key _ _
  | cleared op l id ids => cases op <;> exact fits
  | leaving o lock _ _ => simpa [Job.fits] using lockKey?_isSome_of_lock? fits lock
  | ended o _ => simp [Job.fits]

/-- Tasks that a turn starts: one for each row of a listing, and none have begun. -/
structure Started (s : State) (i : Nat) (p : Phase) (added : List Task) : Prop where
  idle : ∀ u ∈ added, ∃ r ∈ (s.tables .sitemaps).rows,
    u = ⟨.eraseRow (r.key .sitemaps) r.id i, .idle⟩
  length_le : added.length ≤ if p.isGathering then (s.tables .sitemaps).rows.length else 0

/-- A turn sets the stage of its task, which keeps its job, and may add tasks that have not begun. -/
theorem Turn.stages {s v : State} {i : Nat} {t : Task} {refused : Option Refusal}
    (h : Turn s i t refused v) :
    ∃ p added, v.stages = s.stages.set i ⟨t.job, p⟩ ++ added ∧ Follows s t p ∧
      Started s i p added := by
  -- Most turns add nothing.
  have alone {p : Phase} {w : State} (follows : Follows s t p)
      (e : w.stages = s.stages.set i ⟨t.job, p⟩) :
      ∃ p added, w.stages = s.stages.set i ⟨t.job, p⟩ ++ added ∧ Follows s t p ∧
        Started s i p added :=
    ⟨p, [], by rw [e, List.append_nil], follows, by simp, Nat.zero_le _⟩
  cases h with
  | ask key lockable => exact alone (.waiting _ key lockable) (State.stages_setPhase _ rfl)
  | turnedAway _ _ => exact alone (.ended _ rfl) (State.stages_finish _ _ _ _)
  | read _ _ => exact alone (.ended _ rfl) (State.stages_setPhase _ rfl)
  | @list name rows listed =>
    refine ⟨.gathering 0 0 none, State.erasers i rows, State.stages_list _ _ _ _ _ _,
      .gathering name, fun u hu => ?_, ?_⟩
    · obtain ⟨r, hr, rfl⟩ := State.mem_erasers.mp hu
      rw [listed] at hr
      exact ⟨r, (List.mem_filter.mp hr).1, rfl⟩
    · rw [State.erasers, List.length_map, listed]
      exact List.length_filter_le _ _
  | @take job l _ _ =>
    exact alone (.locked job l) (State.stages_setPhase _ (State.afterLock_isGathering job l))
  | fail lock holds working =>
    exact alone (.leaving _ lock holds working) (State.stages_setPhase _ rfl)
  | find key =>
    exact alone (.found _ key) (State.stages_setPhase _ (State.afterFind_isGathering _ _ _))
  | @clear op _ l id ids _ => exact alone (.cleared op l id ids) (State.stages_setPhase _ rfl)
  | insert _ => exact alone (.leaving _ rfl rfl (by simp)) (State.stages_setPhase _ rfl)
  | update _ => exact alone (.leaving _ rfl rfl (by simp)) (State.stages_setPhase _ rfl)
  | erase => exact alone (.leaving _ rfl rfl (by simp)) (State.stages_setPhase _ rfl)
  | leave => exact alone (.ended _ rfl) (State.stages_finish _ _ _ _)
  | gathered _ => exact alone (.ended _ rfl) (State.stages_finish _ _ _ _)

theorem Follows.ne_idle {s : State} {t : Task} {p : Phase} (h : Follows s t p) : p ≠ .idle := by
  rintro rfl
  generalize e : Phase.idle = q at h
  cases h with
  | locked job l => cases job <;> cases e
  | found l key =>
    unfold State.afterFind at e
    split at e <;> cases e
  | waiting | gathering | cleared | leaving | ended => cases e

theorem Follows.idle_of_gathering {s : State} {t : Task} {p : Phase} (h : Follows s t p)
    (gathering : p.isGathering = true) : t.phase = .idle := by
  cases h with
  | gathering name => rfl
  | locked job l => rw [State.afterLock_isGathering] at gathering; cases gathering
  | found l key => rw [State.afterFind_isGathering] at gathering; cases gathering
  | waiting | cleared | leaving | ended => cases gathering

theorem Turn.stage_cases {s v : State} {i j : Nat} {t u : Task} {refused : Option Refusal}
    (h : Turn s i t refused v) (hj : v.stages[j]? = some u) :
    (j = i ∧ ∃ p, u = ⟨t.job, p⟩ ∧ Follows s t p) ∨ (j ≠ i ∧ s.stages[j]? = some u) ∨
      ∃ r ∈ (s.tables .sitemaps).rows, t.phase = .idle ∧
        u = ⟨.eraseRow (r.key .sitemaps) r.id i, .idle⟩ := by
  obtain ⟨p, added, e, follows, started⟩ := h.stages
  rw [e, List.getElem?_append] at hj
  split at hj
  · rcases getElem?_set_cases hj with ⟨rfl, rfl⟩ | old
    · exact .inl ⟨rfl, p, rfl, follows⟩
    · exact .inr (.inl old)
  · have mem := List.mem_of_getElem? hj
    have gathering : p.isGathering = true := by
      have most := started.length_le
      have some := List.length_pos_of_mem mem
      cases yes : p.isGathering with
      | true => rfl
      | false =>
        rw [yes, if_neg Bool.false_ne_true] at most
        omega
    obtain ⟨r, hr, rfl⟩ := started.idle u mem
    exact .inr (.inr ⟨r, hr, follows.idle_of_gathering gathering, rfl⟩)

theorem Turn.stage_self {s v : State} {i : Nat} {t : Task} {refused : Option Refusal}
    (h : Turn s i t refused v) (ht : s.tasks[i]? = some t) :
    ∃ p, v.stages[i]? = some ⟨t.job, p⟩ ∧ Follows s t p := by
  obtain ⟨p, added, e, follows, _⟩ := h.stages
  have hi := State.stages_of_tasks ht
  refine ⟨p, ?_, follows⟩
  rw [e, List.getElem?_append_left, getElem?_set_of_some hi]
  rw [List.length_set]
  exact (List.getElem?_eq_some_iff.mp hi).1

theorem Turn.stage_of_ne {s v : State} {i j : Nat} {t u : Task} {refused : Option Refusal}
    (h : Turn s i t refused v) (ne : j ≠ i) (hj : s.stages[j]? = some u) :
    v.stages[j]? = some u := by
  obtain ⟨p, added, e, _, _⟩ := h.stages
  have bound := (List.getElem?_eq_some_iff.mp hj).1
  rw [e, List.getElem?_append_left (by rwa [List.length_set]), List.getElem?_set_ne (Ne.symm ne), hj]

theorem fits_of_reachable {s u : State} (h : Reachable s u) (start : ∀ t ∈ s.tasks, t.Fits) :
    ∀ t ∈ u.tasks, t.Fits := by
  induction h with
  | start => exact start
  | @step u v i refused _ taken ih =>
    obtain ⟨t, ht, turn⟩ := State.turn_of_step ih taken
    intro w hw
    rw [← Task.stage_fits]
    obtain ⟨j, hj⟩ := List.mem_iff_getElem?.mp (List.mem_map_of_mem hw : w.stage ∈ v.stages)
    rcases turn.stage_cases hj with ⟨_, p, e, follows⟩ | ⟨_, old⟩ | ⟨r, _, _, e⟩
    · rw [e]
      exact follows.fits (ih t (List.mem_of_getElem? ht))
    · obtain ⟨x, hx, e⟩ := List.mem_map.mp (List.mem_of_getElem? old)
      rw [← e, Task.stage_fits]
      exact ih x hx
    · rw [e]
      rfl

theorem lockable_of_reachable {s u : State} {ops : List Operation}
    (h : Reachable (s.withTasks ops) u) :
    ∀ (i l : Nat) (t : Task) (k : Key), u.stages[i]? = some t → t.lock? = some l →
      t.job.lockKey? = some k → k.lockable = true := by
  induction h with
  | start =>
    intro i l t k hi hl
    rw [State.stages_withTasks] at hi
    obtain ⟨op, _, rfl⟩ := List.mem_map.mp (List.mem_of_getElem? hi)
    cases hl
  | @step u v i refused reached taken ih =>
    obtain ⟨t, ht, turn⟩ :=
      State.turn_of_step (fits_of_reachable reached (State.fits_withTasks ops s)) taken
    intro j l w k hj hl key
    rcases turn.stage_cases hj with ⟨_, p, rfl, follows⟩ | ⟨_, old⟩ | ⟨_, _, _, rfl⟩
    · have before {m : Nat} (lock : t.lock? = some m) : k.lockable = true :=
        ih i m t.stage k (State.stages_of_tasks ht) (by rw [Task.stage_lock?, lock])
          (by rw [Task.stage_job]; exact key)
      cases follows with
      | waiting _ key' lockable =>
        obtain rfl : k = _ := Option.some.inj (key.symm.trans key')
        exact lockable
      | locked _ l | found l _ | cleared _ l _ _ => exact before rfl
      | leaving _ lock _ _ => exact before lock
      | gathering _ | ended _ _ => cases hl
    · exact ih j l w k old hl key
    · cases hl

/-- The state after some tasks have taken turns, in this order, with these calls refused. -/
def State.turns (turns : List (Nat × Option Refusal)) (s : State) : State :=
  turns.foldl (fun s turn => (s.step turn.1 turn.2).getD s) s

theorem reachable_turns (turns : List (Nat × Option Refusal)) (s : State) :
    Reachable s (s.turns turns) := by
  induction turns generalizing s with
  | nil => exact .start
  | cons turn turns ih =>
    have first : Reachable s ((s.step turn.1 turn.2).getD s) := by
      cases e : s.step turn.1 turn.2 with
      | none => exact .start
      | some v => exact .step .start e
    exact first.trans (ih _)

end Store
end Sitemap
