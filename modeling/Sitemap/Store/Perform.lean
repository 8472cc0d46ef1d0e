/-
Running the store.

An environment decides which calls are refused.  `settle` lets the tasks that can step take turns
until none can: a turn ends at the next call or wait.  The bound on the number of steps is computed
from the state.  `perform` runs one operation by itself, `startAll` starts several at once.

Whatever the environment decides, a run only goes where tasks taking turns can get:
`reachable_settle`.
-/
import Sitemap.Store.Machine

namespace Sitemap
namespace Store

/-- What decides which calls are refused, with a memory of its own. -/
structure Environment (γ : Type) where
  judge : γ → State → Call → Option Refusal × γ

namespace State

variable {γ : Type}

/-- The tasks that can step, those of a queue first. -/
def ready (queue : List Nat) (s : State) : List Nat :=
  queue.filter s.canStep ++
    (List.range s.tasks.length).filter fun i => i ∉ queue ∧ s.canStep i

/-- Let a task step as the environment decides. -/
def stepIn (env : Environment γ) (g : γ) (i : Nat) (s : State) : γ × State :=
  let (refused, g) := match s.call? i with
    | some c => env.judge g s c
    | none => (none, g)
  (g, (s.step i refused).getD s)

theorem reachable_stepIn (env : Environment γ) (g : γ) (i : Nat) (s : State) :
    Reachable s (s.stepIn env g i).2 := by
  unfold stepIn
  split
  simp only
  cases h : s.step i _ with
  | none => exact .start
  | some v => exact Reachable.start.step h

/-- Let tasks step until none can, at most `bound` times.  A task steps until it waits, and lets the
others of the queue go first before it makes a call. -/
def settleWithin (env : Environment γ) : Nat → List Nat → γ → State → γ × State
  | 0, _, g, s => (g, s)
  | bound + 1, queue, g, s =>
    match s.ready queue with
    | [] => (g, s)
    | i :: rest =>
      let (g, s) := s.stepIn env g i
      let queue := if (s.call? i).isSome then rest ++ [i] else i :: rest
      settleWithin env bound queue g s

theorem reachable_settleWithin (env : Environment γ) (bound : Nat) (queue : List Nat) (g : γ)
    (s : State) : Reachable s (settleWithin env bound queue g s).2 := by
  induction bound generalizing queue g s with
  | zero => exact .start
  | succ bound ih =>
    unfold settleWithin
    split
    · exact .start
    · exact (reachable_stepIn env g _ s).trans (ih _ _ _)

/-- More steps than the tasks of a state can take. -/
def stepBound (s : State) : Nat :=
  let tasks := s.tasks.length
  let rows := (s.tables .sitemaps).rows.length + (s.tables .caches).rows.length + tasks
  8 * (tasks + 1) * (rows + 2)

/-- Let tasks step until none can. -/
def settle (env : Environment γ) (g : γ) (s : State) : γ × State :=
  settleWithin env s.stepBound [] g s

theorem reachable_settle (env : Environment γ) (g : γ) (s : State) :
    Reachable s (s.settle env g).2 :=
  reachable_settleWithin env s.stepBound [] g s

/-- A state with new tasks and nothing written or reported yet. -/
def withTasks (ops : List Operation) (s : State) : State :=
  { s with tasks := ops.map Task.ofOperation, writes := [], notices := [] }

def outcome? (i : Nat) (s : State) : Option Outcome := s.tasks[i]?.bind Task.outcome?

/-- Run one operation by itself. -/
def perform (env : Environment γ) (g : γ) (op : Operation) (s : State) : γ × State :=
  (s.withTasks [op]).settle env g

/-- Start all tasks in turn: each asks for its lock and takes it if it can. -/
def startAll (env : Environment γ) (g : γ) (s : State) : γ × State :=
  (List.range s.tasks.length).foldl
    (fun (g, s) i =>
      let (g, s) := s.stepIn env g i
      s.stepIn env g i)
    (g, s)

end State
end Store
end Sitemap
