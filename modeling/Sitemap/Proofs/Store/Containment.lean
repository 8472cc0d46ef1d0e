/-
What a refused call leaves behind when one operation runs by itself.

The operation ends with the refusal, reports nothing, gives its locks back, and leaves all rows but
those that it is about as they were; of these it has deleted some at most.  A deletion goes on with
the other rows of the document, and ends with the first refusal that any of these has ended with.

What is gone from a table are rows that the operation is about (`Trims`), and of a document those
whose deletion is recorded (`Account.Erased`).  `contained_of_refusal` puts this together with what
the refusals tell.
-/
import Sitemap.Proofs.Store.Refusals
import Sitemap.Store.Failing

namespace Sitemap
namespace Store

section

variable {s u v : State} {op : Operation} {a : Account} {i : Nat} {t : Task}
  {refused : Option Refusal} {e : Refusal} {name : Value}

/-! ## The tables -/

/-- The rows that an operation is about. -/
def Operation.concerns (op : Operation) (name : TableName) (r : Row) : Bool :=
  match op with
  | .deleteSitemap document => decide (name = .sitemaps) && (r.column "name").alike document
  | op => op.key?.any fun k => decide (name = k.table) && (r.key name).meets k

theorem Operation.concerns_of_lockKey {k : Key} (key : (Job.operation op).lockKey? = some k)
    {r : Row} (meets : (r.key k.table).meets k = true) : op.concerns k.table r = true := by
  cases op with
  | getSitemap _ _ | deleteSitemap _ | getCache _ => cases key
  | createSitemap _ _ _ | createCache _ _ | updateCache _ _ =>
    cases key
    exact meets

theorem Operation.lockKey?_of_creates (creates : op.creates = true) :
    (Job.operation op).lockKey? = op.key? := by
  cases op with
  | createSitemap _ _ _ | createCache _ _ => rfl
  | updateCache _ _ | getSitemap _ _ | deleteSitemap _ | getCache _ => cases creates

/-- The tables after calls that only delete. -/
structure Trims (s : State) (op : Operation) (u : State) : Prop where
  rows : ∀ name, ∀ r ∈ (u.tables name).rows, r ∈ (s.tables name).rows
  spared : ∀ name, (u.tables name).rows.filter (fun r => !op.concerns name r)
    = (s.tables name).rows.filter fun r => !op.concerns name r

namespace Trims

/-- What an operation deletes is a row that it is about. -/
theorem concerned (h : Trims s op u) (accounts : Accounts s op a u) (tracks : u.Tracks)
    (numbered : (s.tables .sitemaps).Numbered) (ht : u.tasks[i]? = some t) {k : Key} {id : Int}
    (removes : t.Removes k id) :
    ∀ r ∈ (u.tables k.table).rows, r.id = id → op.concerns k.table r = true := by
  intro r hr same
  cases removes with
  | @cleared op' k l id ids key =>
    obtain rfl := accounts.eq_zero_of_operation ht rfl
    obtain rfl : op' = op := Job.operation.inj (accounts.job ht)
    have belongs := tracks.listed 0 l op' k (id :: ids) (State.stages_of_tasks ht) key id
      List.mem_cons_self
    exact Operation.concerns_of_lockKey key (belongs.own r hr same)
  | @erased k id parent l =>
    cases i with
    | zero => cases accounts.job ht
    | succ i =>
      obtain ⟨name, r₀, rfl, _, listed, e⟩ := accounts.exists_row (State.jobs_getElem? ht)
      cases e
      obtain ⟨mem, alike⟩ := List.mem_filter.mp (List.mem_of_getElem? listed)
      obtain rfl := numbered.eq_of_id (h.rows _ r hr) mem same
      exact alike

theorem step (h : Trims s op u) (accounts : Accounts s op a u) (tracks : u.Tracks)
    (numbered : (s.tables .sitemaps).Numbered) (ht : u.tasks[i]? = some t)
    (turn : Turn u i t refused v) (light : Light (t.adds refused)) : Trims s op v := by
  rcases turn.tables_cases with ⟨same, _⟩ | ⟨k, id, removes, _, tables⟩ | ⟨kind, no, no', adds⟩
  · exact ⟨by rw [same]; exact h.rows, by rw [same]; exact h.spared⟩
  · have own := h.concerned accounts tracks numbered ht removes
    have other {name : TableName} (ne : name ≠ k.table) : v.tables name = u.tables name := by
      rw [tables, State.erase_table_of_ne ne]
    have erased : v.tables k.table = (u.tables k.table).erase id := by
      rw [tables, State.erase_table]
    refine ⟨fun name r hr => ?_, fun name => ?_⟩
    · by_cases e : name = k.table
      · subst e
        rw [erased] at hr
        exact h.rows _ r (Table.mem_erase.mp hr).1
      · rw [other e] at hr
        exact h.rows _ r hr
    · by_cases e : name = k.table
      · subst e
        rw [erased, ← h.spared]
        exact Table.filter_erase fun r hr same => by rw [own r hr same]; rfl
      · rw [other e]
        exact h.spared name
  · rcases light kind (adds ▸ List.mem_singleton_self _) with rfl | rfl
    · exact absurd rfl no
    · exact absurd rfl no'

theorem of_recorded {γ : Type} {env : Environment γ} {g h : γ} (unlocked : s.locks.size = 0)
    (numbered : ∀ name, (s.tables name).Numbered)
    (run : Recorded env g (s.withTasks [op]) a h u) (light : ∀ i, Light (a.calls i)) :
    Trims s op u := by
  induction run with
  | start => exact ⟨fun _ _ hr => hr, fun _ => rfl⟩
  | @step a h u v i before taken ih =>
    have sound := sound_of_reachable (List.length_eq_zero_iff.mp unlocked) numbered before.reachable
    obtain ⟨t, ht, turn⟩ := State.turn_of_step sound.fits taken
    have earlier := ih fun j kind called => light j kind (Account.mem_record ht called)
    refine earlier.step (.of_recorded before) sound.tracks (numbered _) ht turn
      fun kind called => light i kind ?_
    rw [Account.record_self ht]
    exact List.mem_append_right _ called

end Trims

/-- Whether a call has deleted the row of an identifier, for the deletion of a document. -/
def Account.Erased (a : Account) (u : State) (id : Int) : Prop :=
  ∃ i k p, u.jobs[i]? = some (.eraseRow k id p) ∧ (.delete, none) ∈ a.calls i

theorem Turn.jobs_getElem? (turn : Turn u i t refused v) (ht : u.tasks[i]? = some t) {j : Nat}
    (bound : j < u.jobs.length) : v.jobs[j]? = u.jobs[j]? := by
  rcases turn.jobs ht with ⟨same, _⟩ | ⟨_, _, _, more⟩
  · rw [same]
  · rw [more, List.getElem?_append_left bound]

namespace Accounts

theorem erased_record (h : Accounts s op a u) (ht : u.tasks[i]? = some t)
    (turn : Turn u i t refused v) (id : Int) :
    (a.record i refused u v).Erased v id ↔
      a.Erased u id ∨ ∃ k p, t.job = .eraseRow k id p ∧ (.delete, none) ∈ t.adds refused := by
  have here := State.jobs_getElem? ht
  have bound {j : Nat} {job : Job} (hj : u.jobs[j]? = some job) : j < u.jobs.length :=
    (List.getElem?_eq_some_iff.mp hj).1
  constructor
  · rintro ⟨j, k, p, hj, called⟩
    by_cases own : j = i
    · subst own
      rw [turn.jobs_getElem? ht (bound here)] at hj
      rw [Account.record_self ht] at called
      rcases List.mem_append.mp called with before | now
      · exact .inl ⟨j, k, p, hj, before⟩
      · exact .inr ⟨k, p, Option.some.inj (here.symm.trans hj), now⟩
    · rw [Account.record_of_ne own] at called
      obtain ⟨w, hw, _⟩ := h.exists_course called
      rw [turn.jobs_getElem? ht (bound (State.jobs_getElem? hw))] at hj
      exact .inl ⟨j, k, p, hj, called⟩
  · rintro (⟨j, k, p, hj, called⟩ | ⟨k, p, job, now⟩)
    · exact ⟨j, k, p, (turn.jobs_getElem? ht (bound hj)).trans hj, Account.mem_record ht called⟩
    · refine ⟨i, k, p, ?_, ?_⟩
      · rw [turn.jobs_getElem? ht (bound here), here, job]
      · rw [Account.record_self ht]
        exact List.mem_append_right _ now

end Accounts

/-- A deletion has deleted the rows that its calls say. -/
theorem mem_rows_iff_of_recorded {γ : Type} {env : Environment γ} {g h : γ}
    (run : Recorded env g (s.withTasks [.deleteSitemap name]) a h u) (r : Row) :
    r ∈ (u.tables .sitemaps).rows ↔ r ∈ (s.tables .sitemaps).rows ∧ ¬a.Erased u r.id := by
  induction run with
  | start =>
    refine ⟨fun hr => ⟨hr, ?_⟩, And.left⟩
    rintro ⟨i, k, p, _, called⟩
    cases called
  | @step a h u v i before taken ih =>
    have accounts := Accounts.of_recorded before
    obtain ⟨t, ht, turn⟩ :=
      State.turn_of_step (fits_of_reachable before.reachable (State.fits_withTasks _ s)) taken
    rw [accounts.erased_record ht turn]
    rcases turn.tables_cases with
      ⟨same, looks⟩ | ⟨k, id, removes, adds, tables⟩ | ⟨kind, no, no', adds⟩
    · have quiet : ¬∃ k p, t.job = .eraseRow k r.id p ∧
          (.delete, none) ∈ t.adds (u.judged env h i).1 := by
        rintro ⟨k, p, _, called⟩
        cases looks .delete called
      rw [same, ih, not_or, and_iff_left quiet]
    · cases removes with
      | @cleared op' k l id ids key =>
        obtain rfl := accounts.eq_zero_of_operation ht rfl
        obtain rfl : op' = _ := Job.operation.inj (accounts.job ht)
        cases key
      | @erased k id parent l =>
        cases i with
        | zero => cases accounts.job ht
        | succ i =>
          obtain ⟨_, r₀, _, _, _, e⟩ := accounts.exists_row (State.jobs_getElem? ht)
          cases e
          rw [tables, show (r₀.key .sitemaps).table = .sitemaps from rfl, State.erase_table,
            Table.mem_erase, ih, not_or, and_assoc]
          refine and_congr_right fun _ => and_congr_right fun _ => not_congr ⟨fun same => ?_, ?_⟩
          · exact ⟨_, _, by rw [same], adds ▸ List.mem_singleton_self _⟩
          · rintro ⟨_, _, e, _⟩
            exact (Job.eraseRow.inj e).2.1.symm
    · have light := (Accounts.of_recorded (before.step taken)).light_of_deletion i kind
      rw [Account.record_self ht, adds] at light
      rcases light (List.mem_append_right _ (List.mem_singleton_self _)) with rfl | rfl
      · exact absurd rfl no
      · exact absurd rfl no'

theorem Task.clearing_of_create {c : Call} (call : t.call? = some c) (create : c.kind = .create) :
    ∃ op l, t = ⟨.operation op, .clearing l []⟩ := by
  obtain ⟨job, p⟩ := t
  unfold call? at call
  split at call
  · cases call
    cases create
  · cases call
    cases create
  · cases call
    cases create
  · obtain ⟨k, _, rfl⟩ := Option.map_eq_some_iff.mp call
    cases create
  · obtain ⟨k, _, rfl⟩ := Option.map_eq_some_iff.mp call
    cases create
  · next op l job phase => exact ⟨op, l, congrArg₂ Task.mk job phase⟩
  · obtain ⟨k, _, rfl⟩ := Option.map_eq_some_iff.mp call
    cases create
  · obtain ⟨k, _, rfl⟩ := Option.map_eq_some_iff.mp call
    cases create
  · cases call

/-- A task that is about to end, or has ended, makes no call. -/
theorem Task.call?_of_ending {o : Outcome}
    (h : (∃ l, t.stage.phase = .leaving l o) ∨ t.stage.phase = .done o) : t.call? = none := by
  obtain ⟨job, p⟩ := t
  cases p with
  | leaving l o => exact call?_leaving job l o
  | done o =>
    cases job with
    | eraseRow _ _ _ => rfl
    | operation op => cases op <;> rfl
  | _ => rcases h with ⟨l, h⟩ | h <;> cases h

/-- A creation that is refused its insertion leaves no row of its key. -/
theorem ofKey_eq_nil_of_recorded {γ : Type} {env : Environment γ} {g h : γ} {k : Key}
    (unlocked : s.locks.size = 0) (run : Recorded env g (s.withTasks [op]) a h u)
    (key : (Job.operation op).lockKey? = some k) (refused : (.create, some e) ∈ a.calls 0) :
    (u.tables k.table).ofKey k = [] := by
  induction run with
  | start => cases refused
  | @step a h u v i before taken ih =>
    have reached := before.reachable
    have accounts := Accounts.of_recorded before
    have locked : ∀ name, op ≠ .deleteSitemap name := by
      rintro name rfl
      cases key
    obtain ⟨t, ht, turn⟩ :=
      State.turn_of_step (fits_of_reachable reached (State.fits_withTasks _ s)) taken
    obtain rfl : i = 0 := by
      cases i with
      | zero => rfl
      | succ i =>
        obtain ⟨name, _, same, _⟩ := accounts.exists_row (State.jobs_getElem? ht)
        exact absurd same (locked name)
    have unchanged (no : ∀ kind, (kind, none) ∉ t.adds (u.judged env h 0).1) :
        v.tables = u.tables := by
      rcases turn.tables_cases with ⟨same, _⟩ | ⟨_, _, _, adds, _⟩ | ⟨kind, _, _, adds⟩
      · exact same
      · exact absurd (adds ▸ List.mem_singleton_self _) (no .delete)
      · exact absurd (adds ▸ List.mem_singleton_self _) (no kind)
    rw [Account.record_self ht] at refused
    rcases List.mem_append.mp refused with already | now
    · -- It has no more to do than to give its lock back.
      have course := accounts.course 0 _ (State.stages_of_tasks ht)
      have silent := Task.call?_of_ending (course.of_refused already).2
      rw [unchanged fun kind called => ?_]
      · exact ih already
      · rw [Task.adds, silent] at called
        cases called
    · -- It has just been refused it.
      obtain ⟨c, call, same⟩ := List.mem_map.mp now
      obtain ⟨create, asked⟩ := Prod.mk.inj same
      obtain ⟨op', l, rfl⟩ := Task.clearing_of_create (Option.mem_toList.mp call) create
      obtain rfl : op' = op := Job.operation.inj (accounts.job ht)
      rw [unchanged fun kind called => ?_]
      · have clears := clears_of_reachable (List.length_eq_zero_iff.mp unlocked) reached
        exact clears.ofKey_eq_nil ht key
      · obtain ⟨_, _, e⟩ := List.mem_map.mp called
        cases asked.symm.trans (Prod.mk.inj e).2

/-! ## The rows of a document -/

namespace Accounts

variable {k : Key} {id : Int} {p : Nat}

theorem closed_of_row (h : Accounts s op a u) (ended : ∀ t ∈ u.tasks, t.outcome?.isSome = true)
    (hj : u.jobs[i]? = some (.eraseRow k id p)) :
    ∃ o, Closed (.eraseRow k id p) o (a.calls i) := by
  have bound := (List.getElem?_eq_some_iff.mp hj).1
  rw [State.jobs, List.length_map] at bound
  have ht := List.getElem?_eq_getElem bound
  obtain ⟨o, final⟩ := Option.isSome_iff_exists.mp (ended _ (List.mem_of_getElem? ht))
  obtain ⟨job, there, closed⟩ :=
    h.closed_of_outcome (show u.outcome? i = some o by rw [State.outcome?, ht]; exact final)
  obtain rfl := Option.some.inj (there.symm.trans hj)
  exact ⟨o, closed⟩

theorem job_of_row (h : Accounts s (.deleteSitemap name) a u) (found : (.find, none) ∈ a.calls 0)
    {r : Row} (listed : ((s.tables .sitemaps).ofName name)[i]? = some r) :
    u.jobs[i + 1]? = some (.eraseRow (r.key .sitemaps) r.id 0) := by
  rw [h.jobs, List.getElem?_cons_succ]
  show (if _ then _ else _ : List Job)[i]? = _
  rw [if_pos found, List.getElem?_map, listed]
  rfl

/-- The rows that are not deleted are those whose call is refused, and those without a call. -/
theorem not_erased_iff (h : Accounts s (.deleteSitemap name) a u)
    (numbered : (s.tables .sitemaps).Numbered) (found : (.find, none) ∈ a.calls 0)
    (ended : ∀ t ∈ u.tasks, t.outcome?.isSome = true) {r : Row}
    (hr : r ∈ (s.tables .sitemaps).ofName name) :
    ¬a.Erased u r.id ↔ (r.key .sitemaps).lockable = false ∨
      ∃ i e, u.jobs[i]? = some (.eraseRow (r.key .sitemaps) r.id 0) ∧
        (.delete, some e) ∈ a.calls i := by
  constructor
  · intro kept
    obtain ⟨i, listed⟩ := List.mem_iff_getElem?.mp hr
    have hj := h.job_of_row found listed
    obtain ⟨o, closed⟩ := h.closed_of_row ended hj
    generalize called : a.calls (i + 1) = cs at closed
    cases closed with
    | turnedAway key lockable =>
      cases key
      exact .inl lockable
    | eraseRefused e _ => exact .inr ⟨i + 1, e, hj, called ▸ List.mem_singleton_self _⟩
    | erased _ => exact absurd ⟨i + 1, _, _, hj, called ▸ List.mem_singleton_self _⟩ kept
  · rintro left ⟨j, k, p, hj, deleted⟩
    -- The row that was deleted is this one.
    have row {j : Nat} {k : Key} {p : Nat} (hj : u.jobs[j]? = some (.eraseRow k r.id p)) :
        ∃ j', j = j' + 1 ∧ k = r.key .sitemaps ∧
          ((s.tables .sitemaps).ofName name)[j']? = some r := by
      cases j with
      | zero =>
        rw [h.jobs] at hj
        cases hj
      | succ j =>
        obtain ⟨_, r', same, _, listed, e⟩ := h.exists_row hj
        cases same
        obtain ⟨rfl, id, _⟩ := Job.eraseRow.inj e
        have mem := (List.mem_filter.mp (List.mem_of_getElem? listed)).1
        obtain rfl := numbered.eq_of_id (List.mem_filter.mp hr).1 mem id
        exact ⟨j, rfl, rfl, listed⟩
    obtain ⟨o, closed⟩ := h.closed_of_row ended hj
    obtain ⟨j', rfl, rfl, listed⟩ := row hj
    rcases left with unlockable | ⟨i, e, hi, refused⟩
    · generalize a.calls (j' + 1) = cs at closed deleted
      cases closed with
      | turnedAway _ _ => cases deleted
      | eraseRefused _ lockable | erased lockable =>
        rw [unlockable] at lockable
        cases lockable
    · obtain ⟨i', rfl, _, listed'⟩ := row hi
      have single : ((s.tables .sitemaps).ofName name).Nodup :=
        (List.Nodup.of_map _ numbered.own).sublist List.filter_sublist
      have bound := (List.getElem?_eq_some_iff.mp listed').1
      obtain rfl : i' = j' := (List.getElem?_inj bound single).mp (listed'.trans listed.symm)
      generalize a.calls (i' + 1) = cs at closed deleted refused
      cases closed with
      | turnedAway _ _ => cases deleted
      | eraseRefused _ _ => cases List.mem_singleton.mp deleted
      | erased _ => cases List.mem_singleton.mp refused

/-- The rows that remain of a document. -/
theorem mem_ofName_iff (h : Accounts s (.deleteSitemap name) a u) {r : Row}
    (rows : r ∈ (u.tables .sitemaps).rows ↔ r ∈ (s.tables .sitemaps).rows ∧ ¬a.Erased u r.id)
    (numbered : (s.tables .sitemaps).Numbered) (found : (.find, none) ∈ a.calls 0)
    (ended : ∀ t ∈ u.tasks, t.outcome?.isSome = true) :
    r ∈ (u.tables .sitemaps).ofName name ↔
      r ∈ (s.tables .sitemaps).ofName name ∧ ((r.key .sitemaps).lockable = false ∨
        ∃ i e, u.jobs[i]? = some (.eraseRow (r.key .sitemaps) r.id 0) ∧
          (.delete, some e) ∈ a.calls i) := by
  have before : r ∈ (u.tables .sitemaps).ofName name ↔
      r ∈ (s.tables .sitemaps).ofName name ∧ ¬a.Erased u r.id := by
    show r ∈ List.filter _ _ ↔ r ∈ List.filter _ _ ∧ _
    rw [List.mem_filter, List.mem_filter, rows, and_right_comm]
  rw [before]
  exact and_congr_right fun hr => h.not_erased_iff numbered found ended hr

end Accounts

end

/-! ## Containment -/

/-- What a run of one operation by itself has come to, in which a call was refused. -/
structure Contained (s : State) (op : Operation) (a : Account) (u : State) : Prop where
  /-- The first task is the operation; the others delete the rows of a document for it. -/
  jobs : u.jobs = .operation op :: s.started op (a.calls 0)
  /-- A task that was refused a call ends with this refusal. -/
  own : ∀ i kind e o, (kind, some e) ∈ a.calls i → u.outcome? i = some o → o = .error e
  /-- The operation ends with the first refusal that any of the tasks has ended with. -/
  first : ∀ o, u.outcome? 0 = some o → ∃ i e, a.failures.head? = some (i, e) ∧ o = .error e
  /-- The deletion of a row ends with a refusal when its call is refused, or when the key of the
  row cannot be locked. -/
  cause : ∀ i e, (i + 1, e) ∈ a.failures → (.delete, some e) ∈ a.calls (i + 1) ∨
    ∃ k id, u.jobs[i + 1]? = some (.eraseRow k id 0) ∧ k.lockable = false ∧
      e = .shape .unhashable
  silent : u.notices = []
  unlocked : (∀ t ∈ u.tasks, t.outcome?.isSome = true) → u.locks.entries = s.locks.entries
  /-- The rows that the operation is not about are the same, in the same order. -/
  spared : ∀ name, (u.tables name).rows.filter (fun r => !op.concerns name r)
    = (s.tables name).rows.filter fun r => !op.concerns name r
  /-- A refusal that comes before a row was deleted leaves the tables as they were. -/
  kept : ∀ kind e, (kind, some e) ∈ a.calls 0 → (.delete, none) ∉ a.calls 0 → u.tables = s.tables
  /-- A creation that was refused its insertion leaves no row of its key. -/
  vacant : ∀ e k, (.create, some e) ∈ a.calls 0 → op.key? = some k →
    (u.tables k.table).ofKey k = []
  /-- An update that was refused a call has changed nothing. -/
  unchanged : ∀ json name, op = .updateCache json name → u.tables = s.tables
  /-- Of a document those rows remain whose own deletion was refused, and those whose key cannot be
  locked. -/
  remaining : ∀ name, op = .deleteSitemap name → (.find, none) ∈ a.calls 0 →
    (∀ t ∈ u.tasks, t.outcome?.isSome = true) → ∀ r, r ∈ (u.tables .sitemaps).ofName name ↔
      r ∈ (s.tables .sitemaps).ofName name ∧ ((r.key .sitemaps).lockable = false ∨
        ∃ i e, u.jobs[i]? = some (.eraseRow (r.key .sitemaps) r.id 0) ∧
          (.delete, some e) ∈ a.calls i)

/-- However the tasks of an operation by itself take turns, and whatever calls are refused: once one
is, no more has happened than `Contained` says.  The run of the scheduler is one of these, and gets
to an end. -/
theorem contained_of_refusal {s : State} (unlocked : s.locks.size = 0)
    (numbered : ∀ name, (s.tables name).Numbered) (op : Operation) {γ : Type} (env : Environment γ)
    (g : γ) :
    (∀ a h u, Recorded env g (s.withTasks [op]) a h u →
      (∃ i kind e, (kind, some e) ∈ a.calls i) → Contained s op a u) ∧
    ∃ a, Recorded env g (s.withTasks [op]) a (s.perform env g op).1 (s.perform env g op).2 ∧
      ∀ t ∈ (s.perform env g op).2.tasks, t.outcome?.isSome = true := by
  refine ⟨fun a h u run ⟨i, kind, e, refused⟩ => ?_, ?_⟩
  · have accounts := Accounts.of_recorded run
    have answers := Answers.of_recorded run
    have light := accounts.light_of_refused refused
    have trims := Trims.of_recorded unlocked numbered run light
    exact {
      jobs := accounts.jobs
      own := fun i kind e o refused ended => accounts.outcome_of_refused refused ended
      first := fun o ended => accounts.first_of_refused answers refused ended
      cause := fun i e failed => accounts.cause_of_failure failed
      silent := by
        rcases answers.quiet with none | ⟨r, ok⟩
        · exact none
        · obtain ⟨_, _, _, failed⟩ := accounts.first_of_refused answers refused ok
          cases failed
      unlocked := fun ended => by
        have free : u.locks.size = 0 := by
          refine (locksExact_of_reachable unlocked run.reachable).empty fun t ht => ?_
          obtain ⟨o, done⟩ := Option.isSome_iff_exists.mp (ended t ht)
          exact Task.lock?_of_outcome? done
        rw [List.length_eq_zero_iff.mp free, List.length_eq_zero_iff.mp unlocked]
      spared := trims.spared
      kept := fun kind e refused kept => accounts.unwritten_of_refused refused kept
      vacant := fun e k refused key => by
        refine ofKey_eq_nil_of_recorded unlocked run ?_ refused
        have creates := (accounts.closed_of_refused refused).creates_of_refused refused
        rw [Operation.lockKey?_of_creates creates, key]
      unchanged := by
        rintro json name rfl
        obtain rfl := accounts.eq_zero_of_called refused fun _ same => by cases same
        refine accounts.unwritten_of_refused refused fun deleted => ?_
        cases (accounts.closed_of_refused refused).creates_of_deleted deleted
      remaining := by
        rintro name rfl found ended r
        exact accounts.mem_ofName_iff (mem_rows_iff_of_recorded run r) (numbered _) found ended }
  · obtain ⟨a, run⟩ := recorded_settle (State.fits_withTasks [op] s) env g
    exact ⟨a, run, settle_ended unlocked env g⟩

/-- A document with two parts, the first of them with this number, and another document. -/
def twoParts (delta : Value) : State where
  tables := fun
    | .sitemaps => ⟨[⟨1, [("name", .text "a"), ("delta", delta)]⟩,
        ⟨2, [("name", .text "a"), ("delta", .int 2)]⟩,
        ⟨3, [("name", .text "b"), ("delta", .int 1)]⟩], 4⟩
    | .caches => {}

/-- The first deletion of a row is refused. -/
def firstRefused : FailurePlan := fun t k => if t = .sitemaps ∧ k = .delete then [1] else []

/-- The deletion of the document, with turns in this order. -/
def deletingParts (delta : Value) (turns : List Nat) : Account × CallCounts × State :=
  recordTurns (failing firstRefused) turns {} (fun _ _ => 0)
    ((twoParts delta).withTasks [.deleteSitemap (.text "a")])

theorem twoParts_numbered (delta : Value) (name : TableName) :
    ((twoParts delta).tables name).Numbered := by
  cases name with
  | sitemaps =>
    refine ⟨?_, by simp [twoParts]⟩
    show [(1 : Int), 2, 3].Nodup
    decide
  | caches => exact ⟨List.nodup_nil, by simp [twoParts]⟩

/-- The deletion of the first part is refused, and that of the second goes on. -/
theorem contained_of_two_parts :
    let x := deletingParts (.int 1) [0, 1, 2, 1, 2, 1, 2, 1, 0, 2]
    Contained (twoParts (.int 1)) (.deleteSitemap (.text "a")) x.1 x.2.2 ∧
      x.2.2.outcome? 0 = some (.error (.connection .delete 1)) ∧
      ((x.2.2.tables .sitemaps).rows.map Row.id) = [1, 3] := by
  have refused : (.delete, some (.connection .delete 1)) ∈
      (deletingParts (.int 1) [0, 1, 2, 1, 2, 1, 2, 1, 0, 2]).1.calls 1 := by decide
  refine ⟨?_, by decide, by decide⟩
  exact (contained_of_refusal rfl (twoParts_numbered _) _ _ _).1 _ _ _
    (recorded_recordTurns _ .start) ⟨1, _, _, refused⟩

/-- The first part has a number that is a list.  It has no lock and so no call: its deletion fails
before the one that is refused its call, and its row remains as well. -/
theorem not_contained_unlockable :
    let x := deletingParts (.list [.int 1]) [0, 1, 2, 2, 2, 2, 0]
    Recorded (failing firstRefused) (fun _ _ => 0)
        ((twoParts (.list [.int 1])).withTasks [.deleteSitemap (.text "a")]) x.1 x.2.1 x.2.2 ∧
      (∀ t ∈ x.2.2.tasks, t.outcome?.isSome = true) ∧
      (.delete, some (.connection .delete 1)) ∈ x.1.calls 2 ∧
      x.2.2.outcome? 0 ≠ some (.error (.connection .delete 1)) ∧
      ¬∀ r, r ∈ (x.2.2.tables .sitemaps).ofName (.text "a") ↔
        r ∈ ((twoParts (.list [.int 1])).tables .sitemaps).ofName (.text "a") ∧
          ∃ i e, x.2.2.jobs[i]? = some (.eraseRow (r.key .sitemaps) r.id 0) ∧
            (.delete, some e) ∈ x.1.calls i := by
  refine ⟨recorded_recordTurns _ .start, by decide, by decide, by decide, fun exact => ?_⟩
  have remains : (⟨1, [("name", .text "a"), ("delta", .list [.int 1])]⟩ : Row) ∈
      ((deletingParts (.list [.int 1]) [0, 1, 2, 2, 2, 2, 0]).2.2.tables .sitemaps).ofName
        (.text "a") := by decide
  have jobs : (deletingParts (.list [.int 1]) [0, 1, 2, 2, 2, 2, 0]).2.2.jobs =
      [.operation (.deleteSitemap (.text "a")),
        .eraseRow (.sitemap (.text "a") (.list [.int 1])) 1 0,
        .eraseRow (.sitemap (.text "a") (.int 2)) 2 0] := by decide
  have uncalled : (deletingParts (.list [.int 1]) [0, 1, 2, 2, 2, 2, 0]).1.calls 1 = [] := by decide
  obtain ⟨_, i, e, job, refused⟩ := (exact _).mp remains
  rw [jobs] at job
  rcases i with _ | _ | _ | i
  · cases job
  · rw [uncalled] at refused
    cases refused
  · cases job
  · cases job

end Store
end Sitemap
