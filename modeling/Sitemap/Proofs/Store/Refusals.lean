/-
Refusals: what the calls that were refused tell of the tasks, and which refusal an operation ends
with.

A task that was refused a call ends with this refusal, and has made no call since.  An operation by
itself knows of the first refusal that any of its tasks has ended with, at every moment: a task that
ends with one tells the operation, which keeps the first that it was told (`Answers`).  So it cannot
end well once a call was refused: `first_of_refused`.
-/
import Sitemap.Proofs.Store.Account

namespace Sitemap
namespace Store

/-! ## The first refusal -/

/-- The refusal that a task knows of: its own, or the first one that it was told. -/
def Task.refusal? (t : Task) : Option Refusal :=
  match t.phase with
  | .gathering _ _ refusal => refusal
  | .done o => Outcome.refusal? o
  | _ => none

/-- The first refusal that a task has ended with. -/
def Account.first? (a : Account) : Option Refusal := a.failures.head?.map Prod.snd

theorem Account.first?_record (i : Nat) (refused : Option Refusal) (u v : State) (a : Account) :
    (a.record i refused u v).first? = a.first?.or (v.failure? i) := by
  show (a.failures ++ _).head?.map Prod.snd = _
  rw [List.head?_append, Option.map_or]
  cases v.failure? i <;> rfl

theorem State.tasks_finish {t : Task} {op : Operation} (job : t.job = .operation op) (i : Nat)
    (o : Outcome) (s : State) : (s.finish i t o).tasks = s.tasks.set i ⟨t.job, .done o⟩ := by
  obtain ⟨j, p⟩ := t
  obtain rfl : j = .operation op := job
  cases o with
  | error e => rfl
  | ok r => cases r <;> rfl

theorem State.tell_notices (parent : Nat) (o : Outcome) (s : State) :
    (s.tell parent o).notices = s.notices := by unfold tell; split <;> rfl

/-- An outcome with a row is reported, and nothing else is. -/
theorem State.finish_notices (i : Nat) (t : Task) (o : Outcome) (s : State) :
    (s.finish i t o).notices = s.notices ∨ ∃ op r, t.job = .operation op ∧ o = .ok r := by
  unfold finish
  split
  · next op r job => exact .inr ⟨op, some r, job, rfl⟩
  · exact .inl rfl
  · exact .inl (tell_notices _ _ _)

theorem Task.lock?_of_outcome? {t : Task} {o : Outcome} (done : t.outcome? = some o) :
    t.lock? = none := by
  obtain ⟨job, p⟩ := t
  cases p with
  | done _ => rfl
  | _ => cases done

theorem Task.busyFor_of_row {t : Task} {k : Key} {id : Int} {p : Nat}
    (job : t.job = .eraseRow k id p) (unfinished : t.outcome? = none) : t.busyFor p = true := by
  obtain ⟨j, q⟩ := t
  obtain rfl : j = .eraseRow k id p := job
  cases q with
  | done o => cases unfinished
  | _ => exact decide_eq_true rfl

theorem Task.refusal?_told {t : Task} (o : Outcome)
    (waits : t.phase.isGathering = true ∨ ∃ e, t.phase = .done (.error e)) :
    (t.told o).refusal? = t.refusal?.or (Outcome.refusal? o) := by
  obtain ⟨job, p⟩ := t
  rcases waits with gathering | ⟨e, rfl⟩
  · cases p with
    | gathering c n refusal =>
      cases refusal with
      | some e => rfl
      | none => cases o <;> rfl
    | _ => cases gathering
  · rfl

section Steps

variable {s u v : State} {op : Operation} {a : Account} {i : Nat} {t : Task}
  {refused : Option Refusal}

theorem State.failure?_of_tasks (ht : s.tasks[i]? = some t) :
    s.failure? i = t.outcome?.bind Outcome.refusal? := by
  rw [failure?, outcome?, ht]
  rfl

/-- An operation knows of no refusal but its own, as long as it has not been told one. -/
theorem Turn.refusal?_self (turn : Turn u i t refused v) (ht : u.tasks[i]? = some t)
    (job : t.job = .operation op) :
    ∃ w, v.tasks[i]? = some w ∧ w.refusal? = t.refusal?.or (v.failure? i) := by
  have moved {p : Phase} (there : v.tasks[i]? = some ⟨t.job, p⟩)
      (same : Task.refusal? ⟨t.job, p⟩
        = t.refusal?.or ((Task.outcome? ⟨t.job, p⟩).bind Outcome.refusal?)) :
      ∃ w, v.tasks[i]? = some w ∧ w.refusal? = t.refusal?.or (v.failure? i) :=
    ⟨_, there, by rw [State.failure?_of_tasks there, same]⟩
  have finished {o : Outcome} {w : State} (tasks : w.tasks = u.tasks) :
      (w.finish i t o).tasks[i]? = some ⟨t.job, .done o⟩ := by
    rw [State.tasks_finish job, tasks]
    exact getElem?_set_of_some ht
  cases turn with
  | ask _ _ | clear _ | insert _ | update _ => exact moved (getElem?_set_of_some ht) rfl
  | turnedAway _ _ => exact moved (finished rfl) rfl
  | read _ _ => exact moved (getElem?_set_of_some ht) rfl
  | list _ =>
    have bound := (List.getElem?_eq_some_iff.mp ht).1
    refine moved ((List.getElem?_append_left ?_).trans (getElem?_set_of_some ht)) rfl
    exact (List.length_set ..).symm ▸ bound
  | take _ =>
    obtain rfl := job
    exact moved (getElem?_set_of_some ht) rfl
  | @fail j p l e lock _ _ =>
    have unaware : Task.refusal? ⟨j, p⟩ = none := by
      cases p with
      | idle | gathering _ _ _ | done _ => cases lock
      | _ => rfl
    refine moved (getElem?_set_of_some ht) ?_
    rw [unaware]
    rfl
  | @find op k l _ =>
    refine moved (getElem?_set_of_some ht) ?_
    unfold State.afterFind
    split <;> rfl
  | erase => cases job
  | leave => exact moved (finished rfl) rfl
  | @gathered name count pending refusal _ ns _ =>
    refine moved (finished rfl) ?_
    cases refusal <;> rfl

/-- A turn that ends an operation without a refusal is one of its last. -/
theorem Turn.tasks_of_ok (turn : Turn u i t refused v) (ht : u.tasks[i]? = some t)
    (job : t.job = .operation op) {r : Option Row} (ok : v.outcome? i = some (.ok r)) :
    v.tasks = u.tasks.set i ⟨t.job, .done (.ok r)⟩ ∧
      (t.phase = .idle ∨ (∃ l o, t.phase = .leaving l o) ∨ ∃ c, t.phase = .gathering c 0 none) := by
  have outcome {w : Task} (there : v.tasks[i]? = some w) : w.outcome? = some (.ok r) := by
    rw [State.outcome?, there] at ok
    exact ok
  have finished {o : Outcome} {w : State} (tasks : w.tasks = u.tasks) :
      (w.finish i t o).tasks = u.tasks.set i ⟨t.job, .done o⟩ := by
    rw [State.tasks_finish job, tasks]
  have ended {o : Outcome} (tasks : v.tasks = u.tasks.set i ⟨t.job, .done o⟩) :
      v.tasks = u.tasks.set i ⟨t.job, .done (.ok r)⟩ := by
    have there : v.tasks[i]? = some ⟨t.job, .done o⟩ := by
      rw [tasks]
      exact getElem?_set_of_some ht
    obtain rfl : o = .ok r := Option.some.inj (outcome there)
    exact tasks
  cases turn with
  | ask _ _ | clear _ | insert _ | update _ | fail _ _ _ =>
    cases outcome (getElem?_set_of_some ht)
  | turnedAway _ _ => exact ⟨ended (finished rfl), .inl rfl⟩
  | read _ _ => exact ⟨ended rfl, .inl rfl⟩
  | list _ =>
    have bound := (List.getElem?_eq_some_iff.mp ht).1
    refine absurd (outcome ((List.getElem?_append_left ?_).trans (getElem?_set_of_some ht)))
      (by simp [Task.outcome?])
    exact (List.length_set ..).symm ▸ bound
  | take _ =>
    obtain rfl := job
    cases outcome (getElem?_set_of_some ht)
  | @find op k l _ =>
    have there := outcome (getElem?_set_of_some ht)
    unfold State.afterFind at there
    split at there <;> cases there
  | erase => cases job
  | leave => exact ⟨ended (finished rfl), .inr (.inl ⟨_, _, rfl⟩)⟩
  | @gathered name count pending refusal _ ns last =>
    have tasks := ended (finished rfl)
    refine ⟨tasks, .inr (.inr ?_)⟩
    cases refusal with
    | some e =>
      have there := outcome ((congrArg (·[i]?) (finished (w := u) rfl)).trans
        (getElem?_set_of_some ht))
      cases there
    | none =>
      obtain rfl : pending = 0 := last.resolve_right fun h => h rfl
      exact ⟨count, rfl⟩

/-- A task that ends tells the operation, which has started it, how. -/
theorem Turn.refusal?_of_row (turn : Turn u i t refused v) (ht : u.tasks[i]? = some t) {k : Key}
    {id : Int} (job : t.job = .eraseRow k id 0) (ne : i ≠ 0) {w : Task}
    (first : u.tasks[0]? = some w)
    (waits : w.phase.isGathering = true ∨ ∃ e, w.phase = .done (.error e)) :
    ∃ w', v.tasks[0]? = some w' ∧ w'.refusal? = w.refusal?.or (v.failure? i) := by
  have moved {p : Phase} (tasks : v.tasks = u.tasks.set i ⟨t.job, p⟩)
      (going : Task.outcome? ⟨t.job, p⟩ = none) :
      ∃ w', v.tasks[0]? = some w' ∧ w'.refusal? = w.refusal?.or (v.failure? i) := by
    have there : v.tasks[i]? = some ⟨t.job, p⟩ := by
      rw [tasks]
      exact getElem?_set_of_some ht
    refine ⟨w, ?_, ?_⟩
    · rw [tasks, List.getElem?_set_ne ne, first]
    · rw [State.failure?_of_tasks there, going]
      exact Option.or_none.symm
  have finished {o : Outcome} {x : State} (end' : v = x.finish i t o) (tasks : x.tasks = u.tasks) :
      ∃ w', v.tasks[0]? = some w' ∧ w'.refusal? = w.refusal?.or (v.failure? i) := by
    have there : v.tasks[i]? = some ⟨t.job, .done o⟩ := by
      rw [end', State.finish_getElem? job, if_neg ne, tasks]
      exact getElem?_set_of_some ht
    refine ⟨w.told o, ?_, ?_⟩
    · rw [end', State.finish_getElem? job, if_pos rfl, tasks, List.getElem?_set_ne ne, first]
      rfl
    · rw [State.failure?_of_tasks there, Task.refusal?_told o waits]
      rfl
  cases turn with
  | ask _ _ | fail _ _ _ | erase => exact moved rfl rfl
  | turnedAway _ _ => exact finished rfl rfl
  | take _ =>
    obtain rfl := job
    exact moved rfl rfl
  | leave => exact finished rfl rfl
  | read _ _ | list _ | find _ | clear _ | insert _ | update _ | gathered _ => cases job

/-- Nothing is reported but by an operation that ends without a refusal. -/
theorem State.notices_of_step (turn : Turn u i t refused v) (ht : u.tasks[i]? = some t)
    (taken : u.step i refused = some v) :
    v.notices = u.notices ∨ ∃ op r, t.job = .operation op ∧ v.outcome? i = some (.ok r) := by
  have finished {o : Outcome} {x : State} (tasks : x.tasks = u.tasks)
      (notices : x.notices = u.notices) :
      (x.finish i t o).notices = u.notices ∨
        ∃ op r, t.job = .operation op ∧ (x.finish i t o).outcome? i = some (.ok r) := by
    rcases x.finish_notices i t o with same | ⟨op, r, job, rfl⟩
    · exact .inl (same.trans notices)
    · refine .inr ⟨op, r, job, ?_⟩
      rw [outcome?, tasks_finish job, tasks, getElem?_set_of_some ht]
      rfl
  cases turn with
  | turnedAway _ _ => exact finished rfl rfl
  | leave => exact finished rfl rfl
  | @gathered name count pending refusal _ ns _ =>
    cases refusal with
    | some e =>
      -- A deletion that has failed reports nothing.
      unfold step at taken
      rw [ht] at taken
      rw [← Option.some.inj taken]
      exact finished rfl rfl
    | none =>
      refine .inr ⟨_, none, rfl, ?_⟩
      show ((u.finish i _ _).tasks[i]?).bind Task.outcome? = _
      rw [tasks_finish rfl, getElem?_set_of_some ht]
      rfl
  | _ => exact .inl rfl

end Steps

/-! ## What the operation ends with -/

/-- What the first task of a run knows, by what is recorded of the run. -/
structure Answers (a : Account) (u : State) : Prop where
  refusal : ∀ t, u.tasks[0]? = some t → t.refusal? = a.first?
  /-- It ends without a refusal when all have ended. -/
  whole : ∀ r, u.outcome? 0 = some (.ok r) → ∀ t ∈ u.tasks, t.outcome?.isSome = true
  quiet : u.notices = [] ∨ ∃ r, u.outcome? 0 = some (.ok r)

namespace Answers

variable {s u v : State} {op : Operation} {a : Account} {i : Nat} {t : Task}
  {refused : Option Refusal}

theorem start (s : State) (op : Operation) : Answers {} (s.withTasks [op]) where
  refusal t ht := by
    obtain rfl := List.mem_singleton.mp (List.mem_of_getElem? ht)
    rfl
  whole r ok := by cases ok
  quiet := .inl rfl

/-- While a row is yet to be deleted, the operation waits, or has failed. -/
theorem waits (h : Answers a u) (accounts : Accounts s op a u) (gathers : Gathers u.tasks)
    (fits : ∀ t ∈ u.tasks, t.Fits) (ht : u.tasks[i]? = some t) (ne : i ≠ 0)
    (unfinished : t.outcome? = none) :
    ∃ k id w, t.job = .eraseRow k id 0 ∧ u.tasks[0]? = some w ∧
      (w.phase.isGathering = true ∨ ∃ e, w.phase = .done (.error e)) := by
  obtain ⟨i, rfl⟩ := Nat.exists_eq_succ_of_ne_zero ne
  obtain ⟨name, r, _, _, _, job⟩ := accounts.exists_row (State.jobs_getElem? ht)
  have mem := List.mem_of_getElem? ht
  obtain ⟨w, _, first, deletes, begun⟩ := gathers.started t mem _ _ _ job
  refine ⟨_, _, w, job, first, ?_⟩
  have fit := fits w (List.mem_of_getElem? first)
  obtain ⟨j, p⟩ := w
  obtain rfl : j = _ := deletes
  cases p with
  | idle => exact absurd rfl begun
  | gathering _ _ _ => exact .inl rfl
  | done o =>
    cases o with
    | error e => exact .inr ⟨e, rfl⟩
    | ok r =>
      have ended := h.whole r (by rw [State.outcome?, first]; rfl) t mem
      rw [unfinished] at ended
      cases ended
  | _ => cases fit

theorem step (h : Answers a u) (accounts : Accounts s op a u) (gathers : Gathers u.tasks)
    (fits : ∀ t ∈ u.tasks, t.Fits) (ht : u.tasks[i]? = some t)
    (taken : u.step i refused = some v) (turn : Turn u i t refused v) :
    Answers (a.record i refused u v) v := by
  have unfinished : t.outcome? = none := by
    have := turn.outcome?_self ht
    rwa [State.outcome?, ht] at this
  refine ⟨fun w hw => ?_, fun r ok => ?_, ?_⟩
  · rw [Account.first?_record]
    by_cases own : i = 0
    · subst own
      obtain ⟨w', there, knows⟩ := turn.refusal?_self ht (accounts.job ht)
      obtain rfl := Option.some.inj (hw.symm.trans there)
      rw [knows, h.refusal t ht]
    · obtain ⟨k, id, w₀, job, first, waits⟩ := h.waits accounts gathers fits ht own unfinished
      obtain ⟨w', there, knows⟩ := turn.refusal?_of_row ht job own first waits
      obtain rfl := Option.some.inj (hw.symm.trans there)
      rw [knows, h.refusal w₀ first]
  · by_cases own : i = 0
    · subst own
      obtain ⟨tasks, last⟩ := turn.tasks_of_ok ht (accounts.job ht) ok
      rw [tasks]
      intro w hw
      obtain ⟨j, hj⟩ := List.mem_iff_getElem?.mp hw
      rcases getElem?_set_cases hj with ⟨_, rfl⟩ | ⟨ne, hj⟩
      · rfl
      · -- Another task: the operation is a deletion, and has waited for all its tasks.
        by_contra going
        obtain ⟨k, id, w₀, job, first, waits⟩ :=
          h.waits accounts gathers fits hj ne (by simpa using going)
        obtain rfl := Option.some.inj (ht.symm.trans first)
        rcases last with idle | ⟨l, o, leaving⟩ | ⟨c, gathering⟩
        · simp [idle, Phase.isGathering] at waits
        · simp [leaving, Phase.isGathering] at waits
        · have none := gathers.counted 0 t c 0 _ ht gathering
          have busy := List.countP_eq_zero.mp none.symm w (List.mem_of_getElem? hj)
          exact busy (Task.busyFor_of_row job (by simpa using going))
    · rw [turn.outcome?_of_ne ht (Ne.symm own)] at ok
      have ended := h.whole r ok t (List.mem_of_getElem? ht)
      rw [unfinished] at ended
      cases ended
  · rcases h.quiet with none | ⟨r, ok⟩
    · rcases State.notices_of_step turn ht taken with same | ⟨op', r, job, ok⟩
      · exact .inl (same.trans none)
      · obtain rfl := accounts.eq_zero_of_operation ht job
        exact .inr ⟨r, ok⟩
    · by_cases own : i = 0
      · subst own
        rw [turn.outcome?_self ht] at ok
        cases ok
      · exact .inr ⟨r, (turn.outcome?_of_ne ht (Ne.symm own)).trans ok⟩

theorem of_recorded {γ : Type} {env : Environment γ} {g h : γ}
    (run : Recorded env g (s.withTasks [op]) a h u) : Answers a u := by
  induction run with
  | start => exact .start s op
  | step before taken ih =>
    have reached := before.reachable
    have fits := fits_of_reachable reached (State.fits_withTasks _ s)
    obtain ⟨t, ht, turn⟩ := State.turn_of_step fits taken
    exact ih.step (.of_recorded before) (gathers_of_reachable reached) fits ht taken turn

end Answers

/-! ## What calls that are refused say -/

theorem mem_served {n : Nat} {kind : CallKind} {refused : Option Refusal}
    (h : (kind, refused) ∈ served n) : refused = none ∧ (kind = .find ∨ kind = .delete) := by
  rcases List.mem_cons.mp h with e | deleted
  · cases e
    exact ⟨rfl, .inl rfl⟩
  · cases (List.mem_replicate.mp deleted).2
    exact ⟨rfl, .inr rfl⟩

/-- Calls that leave no rows but those that were there. -/
def Light (cs : Calls) : Prop := ∀ kind, (kind, none) ∈ cs → kind = .find ∨ kind = .delete

theorem light_nil : Light [] := fun _ called => (by cases called)

theorem light_served (n : Nat) : Light (served n) := fun _ called => (mem_served called).2

theorem Light.concat {cs : Calls} (h : Light cs) {kind : CallKind} {refused : Option Refusal}
    (last : refused = none → kind = .find ∨ kind = .delete) : Light (cs ++ [(kind, refused)]) := by
  intro other called
  rcases List.mem_append.mp called with called | called
  · exact h other called
  · cases List.mem_singleton.mp called
    exact last rfl

/-- Whether a job does nothing but delete. -/
def Job.OnlyDeletes (job : Job) : Prop :=
  ∀ op, job = .operation op → ∃ name, op = .deleteSitemap name

theorem Closed.light {job : Job} {o : Outcome} {cs : Calls} (closed : Closed job o cs)
    (h : (∃ e, o = .error e) ∨ job.OnlyDeletes) : Light cs := by
  have never {op : Operation} (r : Option Row)
      (h : (∃ e : Refusal, (.ok r : Outcome) = .error e) ∨ (Job.operation op).OnlyDeletes) :
      ∃ name, op = .deleteSitemap name := by
    rcases h with ⟨e, err⟩ | deletes
    · cases err
    · exact deletes op rfl
  cases closed with
  | turnedAway _ _ => exact light_nil
  | findRefused e => exact light_nil.concat (by simp)
  | deleteRefused n e _ | createRefused n e _ => exact (light_served n).concat (by simp)
  | updateRefused e => exact (light_served 0).concat (by simp)
  | eraseRefused e _ => exact light_nil.concat (by simp)
  | gathered _ | found _ => exact light_served 0
  | created n r creates =>
    obtain ⟨name, rfl⟩ := never r h
    cases creates
  | updated r =>
    obtain ⟨name, e⟩ := never r h
    cases e
  | erased _ => exact light_nil.concat (by simp)

theorem Course.light {t : Task} {cs : Calls} (course : Course t cs) (deletes : t.job.OnlyDeletes) :
    Light cs := by
  cases course with
  | begun _ => exact light_nil
  | clearing n _ => exact light_served n
  | updating | gathering => exact light_served 0
  | leaving closed | done closed => exact closed.light (.inr deletes)

/-- The refusal of a call is how its task ends. -/
theorem Closed.eq_of_refused {job : Job} {o : Outcome} {cs : Calls} (closed : Closed job o cs)
    {kind : CallKind} {e : Refusal} (refused : (kind, some e) ∈ cs) : o = .error e := by
  have last {n : Nat} {kind' : CallKind} {refused' : Option Refusal}
      (called : (kind, some e) ∈ served n ++ [(kind', refused')]) : refused' = some e := by
    rcases List.mem_append.mp called with called | called
    · cases (mem_served called).1
    · cases List.mem_singleton.mp called
      rfl
  cases closed with
  | turnedAway _ _ => cases refused
  | findRefused e' | eraseRefused e' _ =>
    cases List.mem_singleton.mp refused
    rfl
  | deleteRefused n e' _ | createRefused n e' _ =>
    cases last refused
    rfl
  | updateRefused e' =>
    cases last refused
    rfl
  | gathered _ | found _ => cases (mem_served refused).1
  | created n r _ | updated r => cases last refused
  | erased _ => cases List.mem_singleton.mp refused

/-- A task that was refused a call is about to end with the refusal, or has. -/
theorem Course.of_refused {t : Task} {cs : Calls} (course : Course t cs) {kind : CallKind}
    {e : Refusal} (refused : (kind, some e) ∈ cs) :
    Closed t.job (.error e) cs ∧
      ((∃ l, t.phase = .leaving l (.error e)) ∨ t.phase = .done (.error e)) := by
  cases course with
  | begun _ => cases refused
  | clearing _ _ | updating | gathering => cases (mem_served refused).1
  | leaving closed =>
    obtain rfl := closed.eq_of_refused refused
    exact ⟨closed, .inl ⟨_, rfl⟩⟩
  | done closed =>
    obtain rfl := closed.eq_of_refused refused
    exact ⟨closed, .inr rfl⟩

theorem Closed.creates_of_refused {op : Operation} {o : Outcome} {cs : Calls} {e : Refusal}
    (closed : Closed (.operation op) o cs)
    (refused : (.create, some e) ∈ cs) : op.creates = true := by
  cases closed with
  | turnedAway _ _ => cases refused
  | findRefused _ => cases List.mem_singleton.mp refused
  | deleteRefused _ _ creates | createRefused _ _ creates | created _ _ creates => exact creates
  | updateRefused _ | updated _ => simp [served] at refused
  | gathered _ | found _ => cases (mem_served refused).1

/-- Only a creation deletes rows itself. -/
theorem Closed.creates_of_deleted {op : Operation} {o : Outcome} {cs : Calls}
    (closed : Closed (.operation op) o cs)
    (deleted : (.delete, none) ∈ cs) : op.creates = true := by
  cases closed with
  | turnedAway _ _ => cases deleted
  | findRefused _ => cases List.mem_singleton.mp deleted
  | deleteRefused _ _ creates | createRefused _ _ creates | created _ _ creates => exact creates
  | updateRefused _ | updated _ | gathered _ | found _ => simp [served] at deleted

namespace Accounts

variable {s u : State} {op : Operation} {a : Account} {i : Nat} {kind : CallKind} {e : Refusal}
  {name : Value}

/-- What a task has called belongs to its course. -/
theorem exists_course (h : Accounts s op a u) {x : CallKind × Option Refusal}
    (called : x ∈ a.calls i) : ∃ t, u.tasks[i]? = some t ∧ Course t.stage (a.calls i) := by
  cases ht : u.tasks[i]? with
  | some t => exact ⟨t, rfl, h.course i _ (State.stages_of_tasks ht)⟩
  | none =>
    have out : u.jobs.length ≤ i := by
      rw [State.jobs, List.length_map]
      exact List.getElem?_eq_none_iff.mp ht
    rw [h.silent i out] at called
    cases called

/-- Only the rows of a document have tasks of their own. -/
theorem eq_zero_of_called (h : Accounts s op a u) {x : CallKind × Option Refusal}
    (called : x ∈ a.calls i) (other : ∀ name, op ≠ .deleteSitemap name) : i = 0 := by
  obtain ⟨t, ht, _⟩ := h.exists_course called
  cases i with
  | zero => rfl
  | succ i =>
    obtain ⟨name, _, e, _⟩ := h.exists_row (State.jobs_getElem? ht)
    exact absurd e (other name)

theorem light_of_deletion (h : Accounts s (.deleteSitemap name) a u) (i : Nat) :
    Light (a.calls i) := by
  intro kind called
  obtain ⟨t, ht, course⟩ := h.exists_course called
  refine course.light (fun op job => ⟨name, ?_⟩) kind called
  rw [Task.stage_job] at job
  obtain rfl := h.eq_zero_of_operation ht job
  exact Job.operation.inj (job.symm.trans (h.job ht))

theorem closed_of_refused (h : Accounts s op a u) (refused : (kind, some e) ∈ a.calls 0) :
    Closed (.operation op) (.error e) (a.calls 0) := by
  obtain ⟨t, ht, course⟩ := h.exists_course refused
  have closed := (course.of_refused refused).1
  rwa [Task.stage_job, h.job ht] at closed

/-- An operation that is refused a call has inserted and updated nothing. -/
theorem light_of_refused (h : Accounts s op a u) (refused : (kind, some e) ∈ a.calls i) (j : Nat) :
    Light (a.calls j) := by
  by_cases deletes : ∃ name, op = .deleteSitemap name
  · obtain ⟨name, rfl⟩ := deletes
    exact h.light_of_deletion j
  · have other (name : Value) : op ≠ .deleteSitemap name := fun same => deletes ⟨name, same⟩
    intro kind' called
    obtain rfl := h.eq_zero_of_called refused other
    obtain rfl := h.eq_zero_of_called called other
    exact (h.closed_of_refused refused).light (.inl ⟨e, rfl⟩) kind' called

/-- Whatever call of its own the operation is refused, it has started no tasks. -/
theorem alone_of_refused (h : Accounts s op a u) (refused : (kind, some e) ∈ a.calls 0) :
    u.jobs = [.operation op] := by
  have closed := h.closed_of_refused refused
  rw [h.jobs]
  unfold State.started
  split
  · generalize a.calls 0 = cs at closed refused
    cases closed with
    | findRefused e => rfl
    | deleteRefused n e creates | createRefused n e creates => cases creates
    | gathered e => cases (mem_served refused).1
    | turnedAway _ _ => rfl
  · rfl

theorem unwritten_of_refused (h : Accounts s op a u) (refused : (kind, some e) ∈ a.calls 0)
    (kept : (.delete, none) ∉ a.calls 0) : u.tables = s.tables := by
  refine h.unwritten fun i kind' called => ?_
  cases i with
  | zero =>
    rcases h.light_of_refused refused 0 kind' called with rfl | rfl
    · rfl
    · exact absurd called kept
  | succ i =>
    rw [h.silent_of_alone (h.alone_of_refused refused)] at called
    cases called

/-- The calls of a task that has ended are those of its outcome. -/
theorem closed_of_outcome (h : Accounts s op a u) {o : Outcome} (ended : u.outcome? i = some o) :
    ∃ job, u.jobs[i]? = some job ∧ Closed job o (a.calls i) := by
  obtain ⟨⟨job, p⟩, ht, done⟩ := Option.bind_eq_some_iff.mp ended
  refine ⟨job, State.jobs_getElem? ht, ?_⟩
  have course := h.course i _ (State.stages_of_tasks ht)
  generalize a.calls i = cs at course
  cases p with
  | done o' =>
    obtain rfl : o' = o := Option.some.inj done
    cases course with
    | begun fresh => cases fresh
    | done closed => exact closed
  | _ => cases done

/-- The refusal of a call is how its task ends. -/
theorem outcome_of_refused (h : Accounts s op a u) (refused : (kind, some e) ∈ a.calls i)
    {o : Outcome} (ended : u.outcome? i = some o) : o = .error e := by
  obtain ⟨job, _, closed⟩ := h.closed_of_outcome ended
  exact closed.eq_of_refused refused

/-- The operation does not end without a refusal. -/
theorem first_of_refused (h : Accounts s op a u) (answers : Answers a u)
    (refused : (kind, some e) ∈ a.calls i) {o : Outcome} (ended : u.outcome? 0 = some o) :
    ∃ i e, a.failures.head? = some (i, e) ∧ o = .error e := by
  obtain ⟨t, ht, done⟩ := Option.bind_eq_some_iff.mp ended
  have knows := answers.refusal t ht
  obtain ⟨job, p⟩ := t
  cases p with
  | done o' =>
    obtain rfl : o' = o := Option.some.inj done
    have knows : Outcome.refusal? o' = a.failures.head?.map Prod.snd := knows
    cases o' with
    | error e =>
      obtain ⟨⟨i, e'⟩, first, rfl⟩ := Option.map_eq_some_iff.mp knows.symm
      exact ⟨i, e', first, rfl⟩
    | ok r =>
      -- Then all have ended, the task that was refused the call among them, and that is a failure.
      have none : a.failures = [] :=
        List.head?_eq_none_iff.mp (Option.map_eq_none_iff.mp knows.symm)
      obtain ⟨w, hw, _⟩ := h.exists_course refused
      obtain ⟨o, final⟩ := Option.isSome_iff_exists.mp
        (answers.whole r ended w (List.mem_of_getElem? hw))
      have out : u.outcome? i = some o := by rw [State.outcome?, hw]; exact final
      obtain rfl := h.outcome_of_refused refused out
      have failed := (h.failed i e).mpr (State.failure?_eq_some.mpr out)
      rw [none] at failed
      cases failed
  | _ => cases done

theorem cause_of_failure (h : Accounts s op a u) (failed : (i + 1, e) ∈ a.failures) :
    (.delete, some e) ∈ a.calls (i + 1) ∨
      ∃ k id, u.jobs[i + 1]? = some (.eraseRow k id 0) ∧ k.lockable = false ∧
        e = .shape .unhashable := by
  obtain ⟨job, there, closed⟩ :=
    h.closed_of_outcome (State.failure?_eq_some.mp ((h.failed _ e).mp failed))
  obtain ⟨_, r, _, _, _, rfl⟩ := h.exists_row there
  generalize a.calls (i + 1) = cs at closed
  cases closed with
  | turnedAway key lockable =>
    cases key
    exact .inr ⟨_, _, there, lockable, rfl⟩
  | eraseRefused _ _ => exact .inl (List.mem_singleton_self _)

end Accounts

end Store
end Sitemap
