/-
The store as a machine whose tasks take turns.

A state holds the tables, the locks, the tasks, what has been written and what has been reported.
`State.step` lets one task take its next step: it is the only definition of what an operation does,
whether it runs alone or among others.  A call to a table may be refused, and then changes nothing.
A task that waits for a lock in use, or for tasks of its own, cannot step.
-/
import Sitemap.Store.Locks
import Sitemap.Store.Task

namespace Sitemap
namespace Store

structure Write where
  kind : CallKind
  key : Key
  id : Int
  deriving DecidableEq

def Write.table (w : Write) : TableName := w.key.table

structure State where
  tables : TableName → Table := fun _ => {}
  locks : Locks := {}
  tasks : List Task := []
  writes : List Write := []
  notices : List Notice := []

namespace State

def setTable (t : TableName) (table : Table) (s : State) : State :=
  { s with tables := fun u => if u = t then table else s.tables u }

def setTask (i : Nat) (t : Task) (s : State) : State := { s with tasks := s.tasks.set i t }

def setPhase (i : Nat) (t : Task) (p : Phase) (s : State) : State :=
  s.setTask i { t with phase := p }

def recordWrites (ws : List Write) (s : State) : State := { s with writes := s.writes ++ ws }

def report (ns : List Notice) (s : State) : State := { s with notices := s.notices ++ ns }

def insert (k : Key) (data : Entries Value) (s : State) : State :=
  let table := s.tables k.table
  (s.setTable k.table (table.insert data)).recordWrites [⟨.create, k, table.newId⟩]

/-- The key of the row of an identifier, if there is one. -/
def keyOf? (t : TableName) (id : Int) (s : State) : Option Key :=
  ((s.tables t).find? id).map (·.key t)

/-- The record of a change to the row of an identifier, if there is one. -/
def writeTo (kind : CallKind) (t : TableName) (id : Int) (s : State) : List Write :=
  match s.keyOf? t id with
  | some k => [⟨kind, k, id⟩]
  | none => []

def erase (t : TableName) (id : Int) (s : State) : State :=
  (s.setTable t ((s.tables t).erase id)).recordWrites (s.writeTo .delete t id)

def update (t : TableName) (id : Int) (data : Entries Value) (s : State) : State :=
  (s.setTable t ((s.tables t).update id data)).recordWrites (s.writeTo .update t id)

/-- Tell a deletion that one of its tasks has ended. -/
def tell (parent : Nat) (outcome : Outcome) (s : State) : State :=
  match s.tasks[parent]? with
  | some { job, phase := .gathering count pending refusal } =>
    let refusal := match refusal, outcome with
      | some e, _ => some e
      | none, .error e => some e
      | none, .ok _ => none
    s.setTask parent { job := job, phase := .gathering count (pending - 1) refusal }
  | _ => s

def finish (i : Nat) (t : Task) (outcome : Outcome) (s : State) : State :=
  let s := s.setPhase i t (.done outcome)
  match t.job, outcome with
  | .operation op, .ok (some _) => s.report op.notice?.toList
  | .operation _, _ => s
  | .eraseRow _ _ parent, outcome => s.tell parent outcome

/-- The tasks that delete the rows of a document, started by the task `i`. -/
def erasers (i : Nat) (rows : List Row) : List Task :=
  rows.map fun r => { job := .eraseRow (r.key .sitemaps) r.id i }

/-- The step of an operation that needs no lock. -/
def look (i : Nat) (t : Task) (refused : Option Refusal) (s : State) : State :=
  match refused, t.job with
  | some e, _ => s.setPhase i t (.done (.error e))
  | none, .operation (.getSitemap name delta) =>
    s.setPhase i t (.done (.ok ((s.tables .sitemaps).ofKey (.sitemap name delta)).head?))
  | none, .operation (.getCache name) =>
    s.setPhase i t (.done (.ok ((s.tables .caches).ofKey (.cache name)).head?))
  | none, .operation (.deleteSitemap name) =>
    let rows := (s.tables .sitemaps).ofName name
    let s := s.setPhase i t (.gathering rows.length rows.length none)
    { s with tasks := s.tasks ++ erasers i rows }
  | none, _ => s

/-- What a task that has found the rows of its key does next. -/
def afterFind (job : Job) (lock : Nat) (rows : List Row) : Phase :=
  match job, rows with
  | .operation (.updateCache _ _), [] => .leaving lock (.ok none)
  | .operation (.updateCache _ _), r :: _ => .updating lock r.id
  | _, rows => .clearing lock (rows.map Row.id)

/-- The step of a task that holds the lock of `k`. -/
def work (i : Nat) (t : Task) (k : Key) (refused : Option Refusal) (s : State) : State :=
  match t.job, t.phase with
  | job, .finding lock =>
    match refused with
    | some e => s.setPhase i t (.leaving lock (.error e))
    | none => s.setPhase i t (afterFind job lock ((s.tables k.table).ofKey k))
  | _, .clearing lock (id :: ids) =>
    match refused with
    | some e => s.setPhase i t (.leaving lock (.error e))
    | none => (s.erase k.table id).setPhase i t (.clearing lock ids)
  | .operation op, .clearing lock [] =>
    match refused with
    | some e => s.setPhase i t (.leaving lock (.error e))
    | none =>
      (s.insert k op.data).setPhase i t
        (.leaving lock (.ok (some ((s.tables k.table).newRow op.data))))
  | .operation op, .updating lock id =>
    match refused with
    | some e => s.setPhase i t (.leaving lock (.error e))
    | none =>
      let s := s.update k.table id op.data
      s.setPhase i t (.leaving lock (.ok ((s.tables k.table).find? id)))
  | .eraseRow _ id _, .erasing lock =>
    match refused with
    | some e => s.setPhase i t (.leaving lock (.error e))
    | none => (s.erase k.table id).setPhase i t (.leaving lock (.ok none))
  | _, .leaving lock outcome =>
    { s with locks := s.locks.leave lock }.finish i t outcome
  | _, _ => s

/-- The phase of a task that has just been given its lock. -/
def afterLock (job : Job) (lock : Nat) : Phase :=
  match job with
  | .operation _ => .finding lock
  | .eraseRow _ _ _ => .erasing lock

/-- The next step of a task, if it can take one. -/
def stepTask (i : Nat) (t : Task) (refused : Option Refusal) (s : State) : Option State :=
  match t.phase, t.job.lockKey? with
  | .idle, some k =>
    if k.lockable then
      some ({ s with locks := s.locks.ask k }.setPhase i t (.waiting (s.locks.lockFor k)))
    else some (s.finish i t (.error (.shape .unhashable)))
  | .idle, none => some (s.look i t refused)
  | .waiting lock, _ =>
    if s.locks.held lock then none
    else some ({ s with locks := s.locks.take lock }.setPhase i t (afterLock t.job lock))
  | .gathering _ _ (some e), _ => some (s.finish i t (.error e))
  | .gathering count 0 none, _ =>
    match t.job with
    | .operation (.deleteSitemap name) =>
      some ((s.finish i t (.ok none)).report
        (if count = 0 then [] else [.deletedSitemaps count name]))
    | _ => some (s.finish i t (.ok none))
  | .gathering _ (_ + 1) none, _ => none
  | .done _, _ => none
  | _, some k => some (s.work i t k refused)
  | _, none => none

/-- Let the task of an index take its next step; `refused` says whether a call that it makes is
refused. -/
def step (i : Nat) (refused : Option Refusal) (s : State) : Option State :=
  match s.tasks[i]? with
  | some t => s.stepTask i t refused
  | none => none

/-- Whether the task of an index can step. -/
def canStep (i : Nat) (s : State) : Bool := (s.step i none).isSome

/-- The call that the task of an index makes next. -/
def call? (i : Nat) (s : State) : Option Call := s.tasks[i]?.bind Task.call?

end State

/-- The states that tasks taking turns can reach from `s`, whatever calls are refused. -/
inductive Reachable (s : State) : State → Prop where
  | start : Reachable s s
  | step {u v : State} {i : Nat} {refused : Option Refusal} :
      Reachable s u → u.step i refused = some v → Reachable s v

theorem Reachable.trans {s u v : State} (h : Reachable s u) (h' : Reachable u v) :
    Reachable s v := by
  induction h' with
  | start => exact h
  | step _ taken ih => exact ih.step taken

end Store
end Sitemap
