/-
Write locks, one for every key in use.

The lock table leads from a key to its lock while some task holds the lock or waits for it, and
counts those tasks.  A lock has a number of its own, given out once: two locks that were made for
one key at different times are different locks.  The table shows a key as the first task wrote it.
-/
import Sitemap.Store.Table

namespace Sitemap
namespace Store

structure Locks where
  /-- The keys in use with the numbers of their locks. -/
  entries : List (Key × Nat) := []
  /-- How many tasks hold a lock or wait for it. -/
  users : Nat → Nat := fun _ => 0
  held : Nat → Bool := fun _ => false
  /-- The number of the next lock. -/
  next : Nat := 0

namespace Locks

def lockOf? (k : Key) (ls : Locks) : Option Nat :=
  (ls.entries.find? fun e => e.1.meets k).map Prod.snd

/-- The lock that a task which asks for a key is given. -/
def lockFor (k : Key) (ls : Locks) : Nat := (ls.lockOf? k).getD ls.next

/-- Count one more task for the lock of a key, which is made if the key is not in use. -/
def ask (k : Key) (ls : Locks) : Locks :=
  match ls.lockOf? k with
  | some l => { ls with users := fun m => if m = l then ls.users l + 1 else ls.users m }
  | none =>
    { entries := ls.entries ++ [(k, ls.next)]
      users := fun m => if m = ls.next then 1 else ls.users m
      held := fun m => if m = ls.next then false else ls.held m
      next := ls.next + 1 }

def take (l : Nat) (ls : Locks) : Locks :=
  { ls with held := fun m => if m = l then true else ls.held m }

/-- Give a lock back and count one task less; its key goes when that was the last. -/
def leave (l : Nat) (ls : Locks) : Locks :=
  let count := ls.users l - 1
  { ls with
    entries := if count = 0 then ls.entries.filter fun e => e.2 ≠ l else ls.entries
    users := fun m => if m = l then count else ls.users m
    held := fun m => if m = l then false else ls.held m }

/-- How many keys are in use. -/
def size (ls : Locks) : Nat := ls.entries.length

end Locks
end Store
end Sitemap
