/-
What is asked of rows.

Some tests are settled before any row is looked at.  The others cannot be run when something is wrong
with what they ask, and neither can those that come to a row in which what they look for cannot be
reached.

Tests are joined by `Test.all` and `Test.any`, which leave out what is settled and stop where the
answer is: `meets_all` and `meets_any` say that this changes nothing for the rows.
-/
import Sitemap.Column

namespace Sitemap
namespace Site

/-- What is asked of a row, or of the value of a column. -/
inductive Test (α : Type) where
  /-- No row meets it. -/
  | nothing
  /-- Every row meets it. -/
  | everything
  /-- The rows for which `holds` meet it.  It cannot be run if it has a fault of its own, nor over a
  row for which `breaks`. -/
  | rows (holds : α → Bool) (fault : Option ColumnFault := none)
    (breaks : α → Bool := fun _ => false)
  /-- It fails when it is run. -/
  | failing (fault : ColumnFault)

namespace Test

variable {α β : Type}

def meets : Test α → α → Bool
  | .everything, _ => true
  | .rows holds _ _, a => holds a
  | .nothing, _ | .failing _, _ => false

/-- The test of what `f` finds in a row. -/
def on (f : β → α) : Test α → Test β
  | .nothing => .nothing
  | .everything => .everything
  | .rows holds fault breaks => .rows (holds ∘ f) fault (breaks ∘ f)
  | .failing fault => .failing fault

/-- When a fault is noticed: first what cannot be put into words, then a wrong number of values,
then the values one by one. -/
def stage : ColumnFault → Nat
  | .unaskable => 0
  | .miscounted => 1
  | _ => 2

/-- The fault of two that is noticed first. -/
def firstFault : Option ColumnFault → Option ColumnFault → Option ColumnFault
  | some f, some g => if stage g < stage f then some g else some f
  | f, g => f.or g

/-- Both tests, where the second is looked at only if the first lets a row pass. -/
def both : Test α → Test α → Test α
  | .nothing, _ => .nothing
  | .failing fault, _ => .failing fault
  | .everything, t => t
  | .rows h f b, .rows k g c =>
    .rows (fun a => h a && k a) (firstFault f g) (fun a => b a || (h a && c a))
  | .rows h f b, .everything => .rows h f b
  | .rows _ _ _, t => t

/-- One of the two tests, where the second is looked at only if the first keeps a row back. -/
def either : Test α → Test α → Test α
  | .everything, _ => .everything
  | .failing fault, _ => .failing fault
  | .nothing, t => t
  | .rows h f b, .rows k g c =>
    .rows (fun a => h a || k a) (firstFault f g) (fun a => b a || (!h a && c a))
  | .rows h f b, .nothing => .rows h f b
  | .rows _ _ _, t => t

def all (ts : List (Test α)) : Test α := ts.foldr both .everything

def any (ts : List (Test α)) : Test α := ts.foldr either .nothing

theorem meets_both (s t : Test α) (a : α) : (s.both t).meets a = (s.meets a && t.meets a) := by
  cases s <;> cases t <;> simp [both, meets]

theorem meets_all (ts : List (Test α)) (a : α) : (all ts).meets a = ts.all fun t => t.meets a := by
  induction ts with
  | nil => rfl
  | cons t ts ih => rw [List.all_cons, ← ih]; exact meets_both t (all ts) a

def fails : Test α → Bool
  | .failing _ => true
  | _ => false

theorem meets_either {s t : Test α} (hs : s.fails = false) (ht : t.fails = false) (a : α) :
    (s.either t).meets a = (s.meets a || t.meets a) ∧ (s.either t).fails = false := by
  cases s <;> cases t <;> simp_all [either, meets, fails]

/-- If no test fails, a row meets one of them when it does. -/
theorem meets_any {ts : List (Test α)} (h : ∀ t ∈ ts, t.fails = false) (a : α) :
    (any ts).meets a = (ts.any fun t => t.meets a) ∧ (any ts).fails = false := by
  induction ts with
  | nil => exact ⟨rfl, rfl⟩
  | cons t ts ih =>
    obtain ⟨hm, hf⟩ := ih fun u hu => h u (List.mem_cons_of_mem t hu)
    obtain ⟨hm', hf'⟩ := meets_either (h t List.mem_cons_self) hf a
    exact ⟨by rw [List.any_cons, ← hm]; exact hm', hf'⟩

def negate : Test α → Test α
  | .nothing => .everything
  | .everything => .nothing
  | .rows holds fault breaks => .rows (fun a => !holds a) fault breaks
  | .failing fault => .failing fault

/-- The test, which also breaks where something else does before. -/
def guarded (broken : α → Bool) : Test α → Test α
  | .rows holds fault breaks => .rows holds fault fun a => broken a || breaks a
  | t => t

end Test
end Site
end Sitemap
