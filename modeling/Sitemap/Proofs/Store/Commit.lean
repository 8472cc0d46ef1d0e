/-
Commit steps, and operations one after another.

Each operation has one step that fixes what it does to the tables: a creation commits when it
inserts, an update when it writes or finds no cache, and a deletion when it lists its rows.  `Run` is
a run in which no call is refused, with the tasks in the order in which they commit.  `performAll`
runs operations one after another, each by itself until the scheduler has ended it.
-/
import Sitemap.Proofs.Store.Locking
import Sitemap.Proofs.Store.Settling

namespace Sitemap
namespace Store

/-- An environment that refuses no call. -/
def calm : Environment Unit where
  judge := fun _ _ _ => (none, ())

/-- Whether a task commits with its next step.  A task that reads, or whose key cannot be locked, has
no other step. -/
def Task.commits (tables : TableName → Table) (t : Task) : Bool :=
  match t.job, t.phase with
  | .operation op, .idle => !(Job.operation op).lockKey?.any Key.lockable
  | .operation (.updateCache _ name), .finding _ => ((tables .caches).ofKey (.cache name)).isEmpty
  | .operation _, .clearing _ [] => true
  | .operation _, .updating _ _ => true
  | _, _ => false

theorem Task.commits_idle {op : Operation} {k? : Option Key} {tables : TableName → Table}
    (key : (Job.operation op).lockKey? = k?) :
    Task.commits tables ⟨.operation op, .idle⟩ = !k?.any Key.lockable := by
  rw [← key]
  rfl

def State.commits (i : Nat) (s : State) : Bool := s.tasks[i]?.any (Task.commits s.tables)

theorem State.commits_of_tasks {s : State} {i : Nat} {t : Task} (ht : s.tasks[i]? = some t) :
    s.commits i = t.commits s.tables := by
  unfold commits
  rw [ht]
  rfl

/-- A run without refused calls, with the tasks that commit in it in order. -/
inductive Run (s : State) : List Nat → State → Prop where
  | start : Run s [] s
  | step {cs : List Nat} {u v : State} {i : Nat} :
      Run s cs u → u.step i none = some v → Run s (cs ++ if u.commits i then [i] else []) v

namespace Run

variable {s u v : State} {cs ds : List Nat}

theorem reachable (h : Run s cs u) : Reachable s u := by
  induction h with
  | start => exact .start
  | step _ taken ih => exact ih.step taken

theorem trans (h : Run s cs u) (h' : Run u ds v) : Run s (cs ++ ds) v := by
  induction h' with
  | start => rw [List.append_nil]; exact h
  | step _ taken ih => rw [← List.append_assoc]; exact ih.step taken

end Run

namespace State

theorem stepIn_calm (i : Nat) (s : State) : (s.stepIn calm () i).2 = (s.step i none).getD s := by
  unfold stepIn
  cases s.call? i <;> rfl

theorem run_stepIn (i : Nat) (s : State) : ∃ cs, Run s cs (s.stepIn calm () i).2 := by
  rw [stepIn_calm]
  cases taken : s.step i none with
  | none => exact ⟨[], .start⟩
  | some v => exact ⟨_, .step .start taken⟩

theorem run_settleWithin (bound : Nat) (queue : List Nat) (s : State) :
    ∃ cs, Run s cs (settleWithin calm bound queue () s).2 := by
  induction bound generalizing queue s with
  | zero => exact ⟨[], .start⟩
  | succ bound ih =>
    unfold settleWithin
    split
    · exact ⟨[], .start⟩
    · next i rest _ =>
      obtain ⟨cs, first⟩ := run_stepIn i s
      obtain ⟨ds, others⟩ := ih (if ((s.stepIn calm () i).2.call? i).isSome then rest ++ [i]
        else i :: rest) (s.stepIn calm () i).2
      exact ⟨_, first.trans others⟩

/-- The tasks that commit when tasks step in this order. -/
def commitOrder : List Nat → State → List Nat
  | [], _ => []
  | i :: is, s =>
    match s.step i none with
    | some v => (if s.commits i then [i] else []) ++ commitOrder is v
    | none => commitOrder is s

theorem run_turns (is : List Nat) (s : State) :
    Run s (s.commitOrder is) (s.turns (is.map fun i => (i, none))) := by
  induction is generalizing s with
  | nil => exact .start
  | cons i is ih =>
    unfold commitOrder
    show Run s _ (((s.step i none).getD s).turns (is.map fun i => (i, none)))
    cases taken : s.step i none with
    | none => exact ih s
    | some v => exact (Run.step .start taken).trans (ih v)

/-- Run operations one after another: how each ends, and the state after the last. -/
def performAll : List Operation → State → List (Option Outcome) × State
  | [], s => ([], s)
  | op :: ops, s =>
    let u := (s.perform calm () op).2
    (u.outcome? 0 :: (performAll ops u).1, (performAll ops u).2)

/-- An operation by itself runs until it has ended, and leaves no lock behind. -/
theorem run_perform {s : State} (unlocked : s.locks.size = 0) (op : Operation) :
    ∃ cs, Run (s.withTasks [op]) cs (s.perform calm () op).2 ∧
      (∀ t ∈ (s.perform calm () op).2.tasks, t.outcome?.isSome = true) ∧
      (s.perform calm () op).2.locks.size = 0 := by
  obtain ⟨cs, run⟩ := run_settleWithin (s.withTasks [op]).stepBound [] (s.withTasks [op])
  have ended : ∀ t ∈ (s.perform calm () op).2.tasks, t.outcome?.isSome = true :=
    settle_ended unlocked calm ()
  refine ⟨cs, run, ended, (locksExact_of_reachable unlocked run.reachable).empty fun t ht => ?_⟩
  have done := ended t ht
  obtain ⟨job, p⟩ := t
  cases p with
  | done o => rfl
  | _ => cases done

end State

end Store
end Sitemap
