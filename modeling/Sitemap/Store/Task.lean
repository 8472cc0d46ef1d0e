/-
Tasks: store operations on their way.

An operation that writes one key asks for the lock of the key, waits for it, looks for the rows of
the key, and deletes, inserts or updates; then it gives the lock back.  A key that cannot be locked
ends the task at once.  A deletion of a document
looks for its rows without a lock and starts one task for each, which deletes that row under the
lock of the row's key; it ends when these have ended, or as soon as one of them has failed.

Each phase says what the task does next, and ends at one call to a table at most.
-/
import Sitemap.Column
import Sitemap.Store.Operation

namespace Sitemap
namespace Store

/-- The kinds of call to a table. -/
inductive CallKind where
  | find
  | create
  | update
  | delete
  deriving DecidableEq, Repr

/-- Why a call was refused. -/
inductive Refusal where
  /-- The connection failed at the n-th call of a kind. -/
  | connection (call : CallKind) (n : Nat)
  /-- A key or a row has the wrong shape. -/
  | shape (fault : ShapeFault)
  /-- A column or its table does not take a value. -/
  | column (fault : ColumnFault)
  deriving DecidableEq, Repr

def CallKind.name : CallKind → String
  | .find => "find_many"
  | .create => "create"
  | .update => "update"
  | .delete => "delete"

def Refusal.message? : Refusal → Option String
  | .connection call n => some s!"{call.name} #{n} failed"
  | .shape fault => fault.message?
  | .column _ => none

/-- A call to a table, with the columns that it writes. -/
structure Call where
  table : TableName
  kind : CallKind
  data : Entries Value := []
  deriving DecidableEq

/-- How an operation ends: with a row, if it has one to answer, or refused. -/
abbrev Outcome := Except Refusal (Option Row)

inductive Job where
  | operation (op : Operation)
  /-- Delete one row for the deletion of a document, which is another task. -/
  | eraseRow (key : Key) (id : Int) (parent : Nat)
  deriving DecidableEq

/-- The key whose lock a job needs. -/
def Job.lockKey? : Job → Option Key
  | .operation (.createSitemap _ name delta) => some (.sitemap name delta)
  | .operation (.createCache _ name) => some (.cache name)
  | .operation (.updateCache _ name) => some (.cache name)
  | .operation _ => none
  | .eraseRow key _ _ => some key

inductive Phase where
  | idle
  | waiting (lock : Nat)
  /-- Holds the lock and looks for the rows of its key next. -/
  | finding (lock : Nat)
  /-- Holds the lock, deletes these rows next and then inserts. -/
  | clearing (lock : Nat) (ids : List Int)
  /-- Holds the lock and updates this row next. -/
  | updating (lock : Nat) (id : Int)
  /-- Holds the lock and deletes its row next. -/
  | erasing (lock : Nat)
  /-- Gives the lock back next. -/
  | leaving (lock : Nat) (outcome : Outcome)
  /-- Waits for its tasks: how many there were, how many go on, and the first refusal. -/
  | gathering (count pending : Nat) (refusal : Option Refusal)
  | done (outcome : Outcome)

structure Task where
  job : Job
  phase : Phase := .idle

namespace Task

def ofOperation (op : Operation) : Task := { job := .operation op }

/-- The lock that a task waits for or holds. -/
def lock? (t : Task) : Option Nat :=
  match t.phase with
  | .waiting l | .finding l | .clearing l _ | .updating l _ | .erasing l | .leaving l _ => some l
  | .idle | .gathering _ _ _ | .done _ => none

def holds (t : Task) : Bool :=
  match t.phase with
  | .finding _ | .clearing _ _ | .updating _ _ | .erasing _ | .leaving _ _ => true
  | .idle | .waiting _ | .gathering _ _ _ | .done _ => false

def outcome? (t : Task) : Option Outcome :=
  match t.phase with
  | .done outcome => some outcome
  | _ => none

/-- The call that a task makes next, if its next step is one. -/
def call? (t : Task) : Option Call :=
  match t.job, t.phase with
  | .operation (.getSitemap _ _), .idle => some ⟨.sitemaps, .find, []⟩
  | .operation (.deleteSitemap _), .idle => some ⟨.sitemaps, .find, []⟩
  | .operation (.getCache _), .idle => some ⟨.caches, .find, []⟩
  | job, .finding _ => job.lockKey?.map fun k => ⟨k.table, .find, []⟩
  | job, .clearing _ (_ :: _) => job.lockKey?.map fun k => ⟨k.table, .delete, []⟩
  | .operation op, .clearing _ [] => op.key?.map fun k => ⟨k.table, .create, op.data⟩
  | .operation op, .updating _ _ => op.key?.map fun k => ⟨k.table, .update, op.data⟩
  | job, .erasing _ => job.lockKey?.map fun k => ⟨k.table, .delete, []⟩
  | _, _ => none

end Task
end Store
end Sitemap
