/-
A deletion that runs by itself, in a table whose rows have keys that can be locked, is refused
nothing.

The tasks of such a run are the deletion and those that it starts, one for each row that it lists.
None of these is turned away, and no call is refused, so none hands the deletion a refusal:
`of_turn` keeps this step by step.  Hence the deletion ends without an error:
`outcome_deleteSitemap`.
-/
import Sitemap.Proofs.Store.Serial

namespace Sitemap
namespace Store

/-- A phase to which no refusal has come. -/
def Phase.Unrefused : Phase → Prop
  | .leaving _ outcome => outcome = .ok none
  | .done outcome => outcome = .ok none
  | .gathering _ _ refusal => refusal = none
  | _ => True

/-- The jobs of the deletion of a document: itself, and the deletion of a row whose key can be
locked. -/
def Job.Deletes (name : Value) : Job → Prop
  | .operation op => op = .deleteSitemap name
  | .eraseRow k _ _ => k.lockable = true

/-- A state of the deletion of a document in which nothing has been refused. -/
structure Deleting (name : Value) (s : State) : Prop where
  rows : ∀ r ∈ (s.tables .sitemaps).rows, (r.key .sitemaps).lockable = true
  jobs : ∀ t ∈ s.tasks, t.job.Deletes name
  unrefused : ∀ t ∈ s.tasks, t.phase.Unrefused

namespace Deleting

variable {name : Value} {s v : State} {i : Nat} {t : Task}

theorem start (rows : ∀ r ∈ (s.tables .sitemaps).rows, (r.key .sitemaps).lockable = true) :
    Deleting name (s.withTasks [.deleteSitemap name]) where
  rows := rows
  jobs t ht := by
    rw [List.mem_singleton.mp ht]
    rfl
  unrefused t ht := by
    rw [List.mem_singleton.mp ht]
    trivial

theorem set (h : Deleting name s) (ht : s.tasks[i]? = some t) {p : Phase} (free : p.Unrefused) :
    Deleting name (s.setPhase i t p) where
  rows := h.rows
  jobs u hu := by
    rcases List.mem_or_eq_of_mem_set hu with hu | rfl
    · exact h.jobs u hu
    · exact h.jobs t (List.mem_of_getElem? ht)
  unrefused u hu := by
    rcases List.mem_or_eq_of_mem_set hu with hu | rfl
    · exact h.unrefused u hu
    · exact free

/-- A deletion is told of no refusal. -/
theorem tell (h : Deleting name s) (parent : Nat) : Deleting name (s.tell parent (.ok none)) := by
  unfold State.tell
  split
  · next job count pending refusal told =>
    have none : refusal = none := h.unrefused _ (List.mem_of_getElem? told)
    subst none
    exact h.set (p := .gathering count (pending - 1) Option.none) told rfl
  · exact h

theorem finish (h : Deleting name s) (ht : s.tasks[i]? = some t) :
    Deleting name (s.finish i t (.ok none)) := by
  have done : Deleting name (s.setPhase i t (.done (.ok none))) := h.set ht rfl
  unfold State.finish
  split
  · next ended => cases ended
  · exact done
  · exact done.tell _

theorem locks (h : Deleting name s) (ls : Locks) : Deleting name { s with locks := ls } :=
  ⟨h.rows, h.jobs, h.unrefused⟩

theorem erase (h : Deleting name s) (table : TableName) (id : Int) :
    Deleting name (s.erase table id) where
  rows r hr := by
    by_cases same : TableName.sitemaps = table
    · subst same
      rw [State.erase_table] at hr
      exact h.rows r (Table.mem_erase.mp hr).1
    · rw [State.erase_table_of_ne same] at hr
      exact h.rows r hr
  jobs := h.jobs
  unrefused := h.unrefused

theorem of_turn (h : Deleting name s) (ht : s.tasks[i]? = some t) (turn : Turn s i t none v) :
    Deleting name v := by
  have deletes := h.jobs t (List.mem_of_getElem? ht)
  have free := h.unrefused t (List.mem_of_getElem? ht)
  cases turn with
  | @ask job k _ _ _ =>
    exact (h.locks (s.locks.ask k)).set (p := .waiting (s.locks.lockFor k)) ht trivial
  | @turnedAway job k _ key lockable =>
    cases job with
    | operation op =>
      obtain rfl : op = .deleteSitemap name := deletes
      cases key
    | eraseRow k' id parent =>
      obtain rfl : k' = k := Option.some.inj key
      rw [show k'.lockable = true from deletes] at lockable
      cases lockable
  | read _ answer => exact absurd deletes (answer rfl name)
  | @list _ rows listed =>
    have begun := h.set (p := .gathering rows.length rows.length none) ht rfl
    have added (u : Task) (hu : u ∈ State.erasers i rows) :
        u.job.Deletes name ∧ u.phase.Unrefused := by
      obtain ⟨r, hr, rfl⟩ := State.mem_erasers.mp hu
      rw [listed] at hr
      exact ⟨h.rows r (List.mem_filter.mp hr).1, trivial⟩
    refine ⟨h.rows, fun u hu => ?_, fun u hu => ?_⟩
    · exact (List.mem_append.mp hu).elim (begun.jobs u) fun hu => (added u hu).1
    · exact (List.mem_append.mp hu).elim (begun.unrefused u) fun hu => (added u hu).2
  | @take job l _ _ =>
    have locked : (State.afterLock job l).Unrefused := by cases job <;> trivial
    exact (h.locks (s.locks.take l)).set ht locked
  | find key | clear key | insert key | update key =>
    -- A deletion has no key of its own.
    obtain rfl : _ = Operation.deleteSitemap name := deletes
    cases key
  | @erase k id parent l => exact (h.erase k.table id).set ht rfl
  | @leave job l _ o =>
    obtain rfl : o = .ok none := free
    exact (h.locks _).finish ht
  | @gathered _ count pending refusal _ ns _ =>
    obtain rfl : refusal = none := free
    have ended := h.finish ht
    exact ⟨ended.rows, ended.jobs, ended.unrefused⟩

theorem of_run {cs : List Nat} {u : State} (start : Deleting name s)
    (fits : ∀ t ∈ s.tasks, t.Fits) (run : Run s cs u) : Deleting name u := by
  induction run with
  | start => exact start
  | step before taken ih =>
    obtain ⟨t, ht, turn⟩ := State.turn_of_step (fits_of_reachable before.reachable fits) taken
    exact ih.of_turn ht turn

end Deleting

/-- A deletion by itself ends without an error. -/
theorem State.outcome_deleteSitemap {s : State} (unlocked : s.locks.size = 0)
    (numbered : ∀ name, (s.tables name).Numbered)
    (rows : ∀ r ∈ (s.tables .sitemaps).rows, (r.key .sitemaps).lockable = true) (name : Value) :
    (s.perform calm () (.deleteSitemap name)).2.outcome? 0 = some (.ok none) := by
  obtain ⟨cs, run, ended, _⟩ := run_perform unlocked (.deleteSitemap name)
  have deleting := (Deleting.start rows).of_run (State.fits_withTasks _ _) run
  have replays := Replays.of_run (List.length_eq_zero_iff.mp unlocked) numbered run
  obtain ⟨p, hp, _⟩ := replays.jobs 0 (.deleteSitemap name) rfl
  rw [State.stages_getElem?] at hp
  obtain ⟨t, ht, _⟩ := Option.map_eq_some_iff.mp hp
  have done := ended t (List.mem_of_getElem? ht)
  have free := deleting.unrefused t (List.mem_of_getElem? ht)
  unfold State.outcome?
  rw [ht, Option.bind_some]
  obtain ⟨job, q⟩ := t
  cases q with
  | done o =>
    obtain rfl : o = .ok none := free
    rfl
  | _ => cases done

end Store
end Sitemap
