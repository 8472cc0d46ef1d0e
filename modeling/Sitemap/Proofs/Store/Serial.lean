/-
Writes that run at once are writes one after another.

A run in which no call is refused, and that ends all its tasks, leaves the tables as its operations
leave them one after another, in the order in which they commit.  Creations and updates answer alike
in both: `serialises_of_run`.  The proof replays the committed operations beside the run, and then
reads the serial run as a run of its own, with one operation at a time.
-/
import Sitemap.Proofs.Store.Replay

namespace Sitemap
namespace Store

/-- The operations in the order in which their tasks commit. -/
def inOrder (ops : List Operation) (cs : List Nat) : List Operation := cs.filterMap fun i => ops[i]?

def applyAll (ops : List Operation) (T : TableName → Table) : TableName → Table :=
  ops.foldl (fun T op => op.apply T) T

/-- Whether the operation of a task in this phase has committed. -/
def Phase.committed : Phase → Bool
  | .gathering _ _ _ => true
  | .leaving _ _ => true
  | .done _ => true
  | _ => false

theorem Task.committed_of_commits {tables : TableName → Table} {t : Task}
    (h : t.commits tables = true) : t.phase.committed = false := by
  unfold commits at h
  split at h
  · next e => rw [e]; rfl
  · next e => rw [e]; rfl
  · next e => rw [e]; rfl
  · next e => rw [e]; rfl
  · cases h

theorem Turn.committed {s v : State} {i : Nat} {op : Operation} {q : Phase}
    (turn : Turn s i ⟨.operation op, q⟩ none v) (ht : s.tasks[i]? = some ⟨.operation op, q⟩) :
    ∃ p, v.stages[i]? = some ⟨.operation op, p⟩ ∧
      p.committed = (q.committed || Task.commits s.tables ⟨.operation op, q⟩) := by
  have hi := State.stages_of_tasks ht
  have after {w : State} {p : Phase} (e : w.stages = s.stages.set i ⟨.operation op, p⟩)
      (h : p.committed = (q.committed || Task.commits s.tables ⟨.operation op, q⟩)) :
      ∃ p, w.stages[i]? = some ⟨.operation op, p⟩ ∧
        p.committed = (q.committed || Task.commits s.tables ⟨.operation op, q⟩) :=
    ⟨p, by rw [e, getElem?_set_of_some hi], h⟩
  cases turn with
  | ask key lockable =>
    refine after (State.stages_setPhase _ rfl) ?_
    rw [Task.commits_idle key, Option.any_some, lockable]
    rfl
  | turnedAway key lockable =>
    refine after (State.stages_finish _ _ _ _) ?_
    rw [Task.commits_idle key, Option.any_some, lockable]
    rfl
  | read key _ =>
    refine after (State.stages_setPhase _ rfl) ?_
    rw [Task.commits_idle key]
    rfl
  | list _ =>
    refine ⟨.gathering 0 0 none, ?_, rfl⟩
    rw [State.stages_list, List.getElem?_append_left, getElem?_set_of_some hi]
    rw [List.length_set]
    exact (List.getElem?_eq_some_iff.mp hi).1
  | take _ =>
    refine after (State.stages_setPhase _ rfl) ?_
    cases op <;> rfl
  | @find _ k l key =>
    refine after (State.stages_setPhase _ (State.afterFind_isGathering _ _ _)) ?_
    cases op with
    | updateCache json name =>
      cases key
      show _ = (false || ((s.tables .caches).ofKey (.cache name)).isEmpty)
      cases rows : (s.tables .caches).ofKey (.cache name) with
      | nil => simp only [Key.table, rows]; rfl
      | cons r rest => simp only [Key.table, rows]; rfl
    | createSitemap _ _ _ | createCache _ _ => rfl
    | getSitemap _ _ | deleteSitemap _ | getCache _ => cases key
  | clear _ =>
    refine after (State.stages_setPhase _ rfl) ?_
    cases op <;> rfl
  | insert _ =>
    refine after (State.stages_setPhase _ rfl) ?_
    cases op <;> rfl
  | update _ =>
    refine after (State.stages_setPhase _ rfl) ?_
    cases op <;> rfl
  | leave => exact after (State.stages_finish _ _ _ _) rfl
  | gathered _ => exact after (State.stages_finish _ _ _ _) rfl

theorem Turn.answer {s v : State} {i : Nat} {op : Operation} {q : Phase} {o : Outcome}
    (turn : Turn s i ⟨.operation op, q⟩ none v) (ht : s.tasks[i]? = some ⟨.operation op, q⟩)
    (h : q.answer? = some o) :
    ∃ p, v.stages[i]? = some ⟨.operation op, p⟩ ∧ p.answer? = some o := by
  have hi := State.stages_of_tasks ht
  cases turn with
  | leave =>
    refine ⟨.done _, ?_, h⟩
    rw [State.stages_finish]
    exact getElem?_set_of_some hi
  | _ => cases h

theorem Task.stage_committed (t : Task) : t.stage.phase.committed = t.phase.committed := by
  unfold stage
  split
  · next e => rw [e]; rfl
  · rfl

theorem Task.stage_answer? (t : Task) : t.stage.phase.answer? = t.phase.answer? := by
  unfold stage
  split
  · next e => rw [e]; rfl
  · rfl

theorem Turn.moves {s v : State} {i j : Nat} {t : Task} {op : Operation} {q : Phase}
    (turn : Turn s i t none v) (ht : s.tasks[i]? = some t)
    (hj : s.stages[j]? = some ⟨.operation op, q⟩) :
    ∃ p, v.stages[j]? = some ⟨.operation op, p⟩ ∧
      p.committed = (q.committed || (decide (j = i) && s.commits i)) ∧
      ∀ o, q.answer? = some o → p.answer? = some o := by
  by_cases e : j = i
  · subst e
    have commits := State.commits_of_tasks ht
    have stage : t.stage = ⟨.operation op, q⟩ :=
      Option.some.inj ((State.stages_of_tasks ht).symm.trans hj)
    have job : t.job = .operation op := by rw [← t.stage_job, stage]
    have committed : t.phase.committed = q.committed := by rw [← t.stage_committed, stage]
    have answer : t.phase.answer? = q.answer? := by rw [← t.stage_answer?, stage]
    obtain ⟨job', q'⟩ := t
    cases job
    obtain ⟨p, hp, moved⟩ := turn.committed ht
    refine ⟨p, hp, ?_, fun o ho => ?_⟩
    · rw [moved, commits, decide_eq_true rfl, Bool.true_and, ← committed]
    · obtain ⟨p', hp', kept⟩ := turn.answer ht (answer.trans ho)
      obtain rfl : p = p' := by simpa using hp.symm.trans hp'
      exact kept
  · refine ⟨q, turn.stage_of_ne e hj, ?_, fun _ ho => ho⟩
    rw [decide_eq_false e, Bool.false_and, Bool.or_false]

/-- The committed operations, replayed beside a run. -/
structure Replays (s : State) (ops : List Operation) (cs : List Nat) (u : State) : Prop where
  mirrors : Mirrors u (applyAll (inOrder ops cs) s.tables)
  once : cs.Nodup
  jobs : ∀ (i : Nat) (op : Operation), ops[i]? = some op →
    ∃ p, u.stages[i]? = some ⟨.operation op, p⟩ ∧ (p.committed = true ↔ i ∈ cs)
  own : ∀ (i : Nat) (op : Operation) (p : Phase), u.stages[i]? = some ⟨.operation op, p⟩ → ops[i]? = some op
  known : ∀ i ∈ cs, ∃ op, ops[i]? = some op
  answered : ∀ (n i : Nat) (op : Operation), cs[n]? = some i → ops[i]? = some op →
    (Job.operation op).lockKey?.isSome = true →
    ∃ p, u.stages[i]? = some ⟨.operation op, p⟩ ∧
      p.answer? = some (op.answer (applyAll (inOrder ops (cs.take n)) s.tables))

namespace Replays

variable {s u v : State} {ops : List Operation} {cs : List Nat}

theorem start (numbered : ∀ name, (s.tables name).Numbered) (ops : List Operation) :
    Replays s ops [] (s.withTasks ops) := by
  have idle {i : Nat} {t : Task} (hi : (s.withTasks ops).stages[i]? = some t) :
      ∃ op, ops[i]? = some op ∧ t = ⟨.operation op, .idle⟩ := by
    rw [State.stages_withTasks, List.getElem?_map] at hi
    obtain ⟨op, hop, e⟩ := Option.map_eq_some_iff.mp hi
    exact ⟨op, hop, e.symm⟩
  have none (f : Task → Bool) (no : ∀ op, f ⟨.operation op, .idle⟩ = false) :
      (s.withTasks ops).stages.any f = false := by
    refine List.any_eq_false.mpr fun t ht => ?_
    obtain ⟨i, hi⟩ := List.mem_iff_getElem?.mp ht
    obtain ⟨op, _, rfl⟩ := idle hi
    rw [no]
    exact Bool.false_ne_true
  refine ⟨⟨numbered, fun _ => rfl, fun name => ?_⟩, List.nodup_nil, fun i op hop => ?_,
    fun i op p hi => ?_, by simp, by simp⟩
  · have clearing (r : Row) : (s.withTasks ops).clearing name r = false := none _ fun _ => rfl
    have doomed (r : Row) : (s.withTasks ops).doomed name r = false := none _ fun _ => rfl
    simp only [clearing, doomed]
    rfl
  · refine ⟨.idle, ?_, by simp [Phase.committed]⟩
    rw [State.stages_withTasks, List.getElem?_map, hop]
    rfl
  · obtain ⟨op', hop, e⟩ := idle hi
    cases e
    exact hop

theorem step (h : Replays s ops cs u) (sound : u.Sound) {i : Nat}
    (taken : u.step i none = some v) :
    Replays s ops (cs ++ if u.commits i then [i] else []) v := by
  obtain ⟨t, ht, turn⟩ := State.turn_of_step sound.fits taken
  have commits := State.commits_of_tasks ht
  have hi := State.stages_of_tasks ht
  have advances := h.mirrors.of_turn sound ht turn
  have own : ∀ (j : Nat) (op : Operation) (p : Phase),
      v.stages[j]? = some ⟨.operation op, p⟩ → ops[j]? = some op := by
    intro j op p hj
    rcases turn.stage_cases hj with ⟨rfl, q, e, _⟩ | ⟨_, old⟩ | ⟨_, _, _, e⟩
    · have job : t.stage.job = .operation op := by
        rw [Task.stage_job]
        exact (congrArg Task.job e).symm
      exact h.own j op t.stage.phase (by rw [hi, ← job])
    · exact h.own j op p old
    · cases e
  cases yes : u.commits i with
  | false =>
    rw [if_neg Bool.false_ne_true, List.append_nil]
    refine ⟨advances.passes (commits.symm.trans yes), h.once, fun j op hop => ?_, own, h.known,
      fun n j op hn hop key => ?_⟩
    · obtain ⟨q, hq, iff⟩ := h.jobs j op hop
      obtain ⟨p, hp, moved, _⟩ := turn.moves ht hq
      refine ⟨p, hp, ?_⟩
      rw [moved, yes, Bool.and_false, Bool.or_false, iff]
    · obtain ⟨q, hq, answer⟩ := h.answered n j op hn hop key
      obtain ⟨p, hp, _, kept⟩ := turn.moves ht hq
      exact ⟨p, hp, kept _ answer⟩
  | true =>
    rw [if_pos rfl]
    obtain ⟨op, job, mirrors, answer⟩ := advances.commits (commits.symm.trans yes)
    have hop : ops[i]? = some op :=
      h.own i op t.stage.phase (by rw [hi, ← job, ← Task.stage_job])
    have fresh : i ∉ cs := by
      obtain ⟨q, hq, iff⟩ := h.jobs i op hop
      obtain rfl : q = t.stage.phase := congrArg Task.phase (Option.some.inj (hq.symm.trans hi))
      rw [← iff, Task.stage_committed, Task.committed_of_commits (commits.symm.trans yes)]
      exact Bool.false_ne_true
    refine ⟨?_, ?_, fun j op' hop' => ?_, own, fun j hj => ?_, fun n j op' hn hop' key => ?_⟩
    · have order : inOrder ops (cs ++ [i]) = inOrder ops cs ++ [op] := by
        simp [inOrder, List.filterMap_append, hop]
      rw [order, applyAll, List.foldl_append]
      exact mirrors
    · exact List.nodup_append.mpr ⟨h.once, List.nodup_singleton _, fun a ha b hb => by
        rw [List.mem_singleton.mp hb]
        rintro rfl
        exact fresh ha⟩
    · obtain ⟨q, hq, iff⟩ := h.jobs j op' hop'
      obtain ⟨p, hp, moved, _⟩ := turn.moves ht hq
      refine ⟨p, hp, ?_⟩
      rw [moved, yes, Bool.and_true, Bool.or_eq_true, iff, decide_eq_true_eq, List.mem_append,
        List.mem_singleton]
    · rcases List.mem_append.mp hj with hj | hj
      · exact h.known j hj
      · rw [List.mem_singleton.mp hj]
        exact ⟨op, hop⟩
    · rw [List.getElem?_append] at hn
      split at hn
      · next bound =>
        obtain ⟨q, hq, answer⟩ := h.answered n j op' hn hop' key
        obtain ⟨p, hp, _, kept⟩ := turn.moves ht hq
        rw [List.take_append_of_le_length (Nat.le_of_lt bound)]
        exact ⟨p, hp, kept _ answer⟩
      · next bound =>
        obtain ⟨zero, rfl⟩ : n - cs.length = 0 ∧ i = j := by
          cases d : n - cs.length with
          | zero => rw [d] at hn; exact ⟨rfl, Option.some.inj hn⟩
          | succ m => rw [d] at hn; cases hn
        obtain rfl : op = op' := Option.some.inj (hop.symm.trans hop')
        have all : (cs ++ [i]).take n = cs := by
          rw [List.take_append, zero, List.take_zero, List.append_nil,
            List.take_of_length_le (by omega)]
        rw [all]
        exact answer key

theorem of_run (empty : s.locks.entries = []) (numbered : ∀ name, (s.tables name).Numbered)
    (h : Run (s.withTasks ops) cs u) : Replays s ops cs u := by
  induction h with
  | start => exact start numbered ops
  | step run taken ih => exact ih.step (sound_of_reachable empty numbered run.reachable) taken

theorem tables_eq (h : Replays s ops cs u) (ended : ∀ t ∈ u.tasks, t.outcome?.isSome = true) :
    u.tables = applyAll (inOrder ops cs) s.tables := by
  have none (f : Task → Bool) (no : ∀ job o, f ⟨job, .done o⟩ = false) : u.stages.any f = false := by
    refine List.any_eq_false.mpr fun t ht => ?_
    obtain ⟨w, hw, rfl⟩ := List.mem_map.mp ht
    have done := ended w hw
    obtain ⟨job, p⟩ := w
    cases p with
    | done o =>
      rw [show Task.stage ⟨job, .done o⟩ = ⟨job, .done o⟩ from rfl, no]
      exact Bool.false_ne_true
    | _ => cases done
  funext name
  have clearing (r : Row) : u.clearing name r = false :=
    none _ fun job o => by cases job <;> rfl
  have doomed (r : Row) : u.doomed name r = false := none _ fun job o => by cases job <;> rfl
  have rows := h.mirrors.rows name
  have nextId := h.mirrors.nextId name
  simp only [clearing, doomed, Bool.not_false, Bool.and_self, List.filter_true] at rows
  cases e : u.tables name with
  | mk rows' nextId' =>
    cases e' : applyAll (inOrder ops cs) s.tables name with
    | mk rows'' nextId'' =>
      rw [e, e'] at rows nextId
      rw [show rows'' = rows' from rows, show nextId'' = nextId' from nextId]

theorem perm (h : Replays s ops cs u) (ended : ∀ t ∈ u.tasks, t.outcome?.isSome = true) :
    cs.Perm (List.range ops.length) := by
  refine (List.perm_ext_iff_of_nodup h.once List.nodup_range).mpr fun i => ?_
  rw [List.mem_range]
  constructor
  · intro mem
    obtain ⟨op, hop⟩ := h.known i mem
    exact (List.getElem?_eq_some_iff.mp hop).1
  · intro bound
    obtain ⟨p, hp, iff⟩ := h.jobs i ops[i] (List.getElem?_eq_getElem bound)
    rw [State.stages_getElem?] at hp
    obtain ⟨t, ht, e⟩ := Option.map_eq_some_iff.mp hp
    have done := ended t (List.mem_of_getElem? ht)
    rw [← Task.stage_outcome?, e] at done
    refine iff.mp ?_
    cases p with
    | done o => rfl
    | _ => cases done

theorem outcome_eq (h : Replays s ops cs u) (ended : ∀ t ∈ u.tasks, t.outcome?.isSome = true)
    {n i : Nat} {op : Operation} (hn : cs[n]? = some i) (hop : ops[i]? = some op)
    (key : (Job.operation op).lockKey?.isSome = true) :
    u.outcome? i = some (op.answer (applyAll (inOrder ops (cs.take n)) s.tables)) := by
  obtain ⟨p, hp, answer⟩ := h.answered n i op hn hop key
  rw [State.stages_getElem?] at hp
  obtain ⟨t, ht, e⟩ := Option.map_eq_some_iff.mp hp
  have done := ended t (List.mem_of_getElem? ht)
  unfold State.outcome?
  rw [ht, Option.bind_some]
  rw [← Task.stage_outcome?, e] at done ⊢
  cases p with
  | done o => exact answer
  | _ => cases done

end Replays

/-! ## One after another -/

namespace State

/-- An operation by itself has its effect in one go. -/
theorem perform_eq {s : State} (unlocked : s.locks.size = 0)
    (numbered : ∀ name, (s.tables name).Numbered) (op : Operation) :
    (s.perform calm () op).2.tables = op.apply s.tables ∧
      ((Job.operation op).lockKey?.isSome = true →
        (s.perform calm () op).2.outcome? 0 = some (op.answer s.tables)) ∧
      (s.perform calm () op).2.locks.size = 0 := by
  obtain ⟨cs, run, ended, free⟩ := run_perform unlocked op
  have replays := Replays.of_run (List.length_eq_zero_iff.mp unlocked) numbered run
  obtain rfl : cs = [0] := List.perm_singleton.mp (replays.perm ended)
  exact ⟨replays.tables_eq ended, replays.outcome_eq ended (n := 0) rfl rfl, free⟩

theorem performAll_eq {s : State} (unlocked : s.locks.size = 0)
    (numbered : ∀ name, (s.tables name).Numbered) (ops : List Operation) :
    (s.performAll ops).2.tables = applyAll ops s.tables ∧
      ∀ n op, ops[n]? = some op → (Job.operation op).lockKey?.isSome = true →
        (s.performAll ops).1[n]? = some (some (op.answer (applyAll (ops.take n) s.tables))) := by
  induction ops generalizing s with
  | nil => exact ⟨rfl, by simp⟩
  | cons op ops ih =>
    obtain ⟨tables, outcome, free⟩ := perform_eq unlocked numbered op
    have numbered' : ∀ name, ((s.perform calm () op).2.tables name).Numbered :=
      (tracks_of_reachable (List.length_eq_zero_iff.mp unlocked) numbered
        (run_perform unlocked op).choose_spec.1.reachable).numbered
    obtain ⟨rest, outcomes⟩ := ih free numbered'
    rw [tables] at rest outcomes
    refine ⟨rest, fun n op' hn key => ?_⟩
    cases n with
    | zero =>
      obtain rfl : op = op' := Option.some.inj hn
      exact congrArg some (outcome key)
    | succ n => exact outcomes n op' hn key

end State

/-! ## Passing a commit step -/

/-- A run from `s` to `u` in which the task `i` commits with the step from `w` to `v`. -/
structure Passes (s : State) (i : Nat) (w v u : State) : Prop where
  before : ∃ cs, Run s cs w
  commits : w.commits i = true
  step : w.step i none = some v
  after : ∃ cs, Run v cs u

/-- What a deletion that has listed its rows in the state `w` leaves alone: the rows of later. -/
structure Since (w : State) (i : Nat) (x : State) : Prop where
  later : (w.tables .sitemaps).nextId ≤ (x.tables .sitemaps).nextId
  old : ∀ r ∈ (x.tables .sitemaps).rows, r.id < (w.tables .sitemaps).nextId →
    r ∈ (w.tables .sitemaps).rows
  listed : ∀ (j : Nat) (k : Key) (id : Int) (p : Phase),
    x.stages[j]? = some ⟨.eraseRow k id i, p⟩ → id < (w.tables .sitemaps).nextId
  begun : ∃ t, x.stages[i]? = some t ∧ t.phase ≠ .idle

theorem State.Sound.old_of_turn {x y : State} (h : x.Sound) {i : Nat} {t : Task}
    {refused : Option Refusal} (ht : x.tasks[i]? = some t) (turn : Turn x i t refused y) {n : Int}
    (later : n ≤ (x.tables .sitemaps).nextId) {r : Row} (hr : r ∈ (y.tables .sitemaps).rows)
    (given : r.id < n) : r ∈ (x.tables .sitemaps).rows := by
  rcases turn.effect.rows hr with hr | ⟨k, key, _, same, _, new | ⟨op, l, rfl, _⟩⟩
  · exact hr
  · have := Table.nextId_le_newId (x.tables .sitemaps)
    omega
  · obtain ⟨cache, _⟩ := h.tracks.chosen i l op k r.id (State.stages_of_tasks ht) key
    rw [same] at cache
    cases cache

namespace Since

variable {w x y : State} {i : Nat}

theorem of_list {name : Value} (sound : w.Sound) (gathers : Gathers w.tasks)
    (ht : w.tasks[i]? = some ⟨.operation (.deleteSitemap name), .idle⟩)
    (turn : Turn w i ⟨.operation (.deleteSitemap name), .idle⟩ none x) : Since w i x where
  later := turn.effect.nextId_le _
  old _ hr given := sound.old_of_turn ht turn (Int.le_refl _) hr given
  listed j k id p hj := by
    rcases turn.stage_cases hj with ⟨_, _, e, _⟩ | ⟨_, old⟩ | ⟨r, hr, _, e⟩
    · cases e
    · -- It has started no task before.
      rw [State.stages_getElem?] at old
      obtain ⟨u, hu, stage⟩ := Option.map_eq_some_iff.mp old
      have job : u.job = .eraseRow k id i := by rw [← u.stage_job, stage]
      obtain ⟨_, _, hw, _, begun⟩ :=
        gathers.started u (List.mem_of_getElem? hu) k id i job
      obtain rfl := Option.some.inj (ht.symm.trans hw)
      exact absurd rfl begun
    · cases e
      exact (sound.tracks.numbered .sitemaps).given r hr
  begun := by
    obtain ⟨p, hp, follows⟩ := turn.stage_self ht
    exact ⟨_, hp, follows.ne_idle⟩

theorem of_turn (h : Since w i x) (sound : x.Sound) {i' : Nat} {t : Task}
    {refused : Option Refusal} (ht : x.tasks[i']? = some t) (turn : Turn x i' t refused y) :
    Since w i y where
  later := Int.le_trans h.later (turn.effect.nextId_le _)
  old r hr given := h.old r (sound.old_of_turn ht turn h.later hr given) given
  listed j k id p hj := by
    have hi' := State.stages_of_tasks ht
    rcases turn.stage_cases hj with ⟨rfl, _, e, _⟩ | ⟨_, old⟩ | ⟨r, _, idle, e⟩
    · have job : t.stage.job = .eraseRow k id i := by
        rw [t.stage_job]
        exact (congrArg Task.job e).symm
      exact h.listed j k id t.stage.phase (by rw [hi', ← job])
    · exact h.listed j k id p old
    · cases e
      obtain ⟨u, hu, begun⟩ := h.begun
      obtain rfl := Option.some.inj (hi'.symm.trans hu)
      rw [Task.stage_eq_self (by rw [idle]; rfl)] at begun
      exact absurd idle begun
  begun := by
    obtain ⟨u, hu, begun⟩ := h.begun
    by_cases e : i = i'
    · subst e
      obtain ⟨p, hp, follows⟩ := turn.stage_self ht
      exact ⟨_, hp, follows.ne_idle⟩
    · exact ⟨u, turn.stage_of_ne e hu, begun⟩

theorem of_run {ops : List Operation} {s v : State} {cs ds : List Nat} (empty : s.locks.entries = [])
    (numbered : ∀ name, (s.tables name).Numbered) (before : Run (s.withTasks ops) cs v)
    (h : Since w i v) (run : Run v ds x) : Since w i x := by
  induction run with
  | start => exact h
  | @step _ u v' i' run taken ih =>
    have sound := sound_of_reachable empty numbered (before.trans run).reachable
    obtain ⟨t, ht, turn⟩ := State.turn_of_step sound.fits taken
    exact ih.of_turn sound ht turn

end Since

/-- A deletion deletes no row but those that were there when it listed its rows. -/
theorem Since.spares {w x y : State} {i j : Nat} {k : Key} {id : Int} {p : Phase} (h : Since w i x)
    (sound : x.Sound) (hj : x.tasks[j]? = some ⟨.eraseRow k id i, p⟩) (step : x.step j none = some y)
    {r : Row} (hr : r ∈ (x.tables .sitemaps).rows) (gone : r ∉ (y.tables .sitemaps).rows) :
    r ∈ (w.tables .sitemaps).rows := by
  obtain ⟨t, ht, turn⟩ := State.turn_of_step sound.fits step
  obtain rfl := Option.some.inj (hj.symm.trans ht)
  have hs : x.stages[j]? = some ⟨.eraseRow k id i, (Task.stage ⟨.eraseRow k id i, p⟩).phase⟩ := by
    rw [State.stages_of_tasks hj]
    cases p <;> rfl
  have given := h.listed j k id _ hs
  have sitemaps := (sound.tracks.started j k id i _ hs).1
  have effect := turn.effect
  generalize y.tables = tables at effect gone
  cases effect with
  | keep => exact absurd hr gone
  | erase =>
    rw [← sitemaps, State.erase_table] at gone
    rw [← sitemaps] at hr
    have same : r.id = id := by
      by_contra ne
      exact gone (Table.mem_erase.mpr ⟨hr, ne⟩)
    rw [sitemaps] at hr
    exact h.old r hr (by rw [same]; exact given)

/-! ## Writes at once and one after another -/

/-- What a run of operations, which has ended in the state `u`, has in common with the same
operations one after another. -/
structure Serialises (s : State) (ops : List Operation) (cs : List Nat) (u : State) : Prop where
  /-- Every operation commits once. -/
  once : cs.Perm (List.range ops.length)
  /-- The tables are the same, with their rows in the same order. -/
  tables : u.tables = (s.performAll (inOrder ops cs)).2.tables
  /-- A creation or an update ends in the same way. -/
  answers : ∀ (n i : Nat) (op : Operation), cs[n]? = some i → ops[i]? = some op →
    (Job.operation op).lockKey?.isSome = true →
    (s.performAll (inOrder ops cs)).1[n]? = some (u.outcome? i)
  /-- An update has no row to answer exactly when its cache is not there at its commit step. -/
  missing : ∀ (i : Nat) (w v : State) (json name : Value), Passes (s.withTasks ops) i w v u →
    ops[i]? = some (.updateCache json name) →
    (u.outcome? i = some (.ok none) ↔
      (Key.cache name).lockable = true ∧ (w.tables .caches).ofKey (.cache name) = [])
  /-- A deletion deletes no row that was not there at its commit step. -/
  spares : ∀ (i j : Nat) (w v x y : State) (name : Value) (k : Key) (id : Int) (p : Phase) (r : Row),
    Passes (s.withTasks ops) i w v x → ops[i]? = some (.deleteSitemap name) →
    x.tasks[j]? = some ⟨.eraseRow k id i, p⟩ → x.step j none = some y →
    r ∈ (x.tables .sitemaps).rows → r ∉ (y.tables .sitemaps).rows →
    r ∈ (w.tables .sitemaps).rows

section

variable {s u : State} {ops : List Operation}

theorem getElem?_filterMap_of_all {α β : Type} {f : α → Option β} {xs : List α}
    (all : ∀ x ∈ xs, ∃ y, f x = some y) (n : Nat) :
    (xs.filterMap f)[n]? = xs[n]?.bind f ∧ (xs.take n).filterMap f = (xs.filterMap f).take n := by
  induction xs generalizing n with
  | nil => simp
  | cons x xs ih =>
    obtain ⟨y, hy⟩ := all x List.mem_cons_self
    have rest := ih fun z hz => all z (List.mem_cons_of_mem _ hz)
    cases n with
    | zero => simp [hy]
    | succ n =>
      obtain ⟨h, h'⟩ := rest n
      simp [hy, h, h']

theorem Task.stage_commits (tables : TableName → Table) (t : Task) :
    t.stage.commits tables = t.commits tables := by
  unfold stage
  split
  · next e =>
    obtain ⟨job, p⟩ := t
    cases e
    cases job with
    | operation op => cases op <;> rfl
    | eraseRow _ _ _ => rfl
  · rfl

theorem State.commits_eq {i : Nat} {t : Task} (hi : s.stages[i]? = some t) :
    s.commits i = t.commits s.tables := by
  rw [stages_getElem?] at hi
  obtain ⟨w, hw, rfl⟩ := Option.map_eq_some_iff.mp hi
  rw [commits_of_tasks hw, Task.stage_commits]

theorem Mirrors.ofKey_eq_of_commits {T : TableName → Table} {i : Nat} {p : Phase} {json name : Value}
    (h : Mirrors s T) (sound : s.Sound) (lockable : (Key.cache name).lockable = true)
    (hi : s.stages[i]? = some ⟨.operation (.updateCache json name), p⟩)
    (commits : Task.commits s.tables ⟨.operation (.updateCache json name), p⟩ = true) :
    (T .caches).ofKey (.cache name) = (s.tables .caches).ofKey (.cache name) := by
  have same (holds : Task.holds ⟨.operation (.updateCache json name), p⟩ = true)
      (no : ∀ l ids, p ≠ .clearing l ids) :
      (T .caches).ofKey (.cache name) = (s.tables .caches).ofKey (.cache name) :=
    h.ofKey_eq rfl fun r meets => sound.not_clearing hi rfl holds no _ r meets
  cases p with
  | idle =>
    have : (!(Key.cache name).lockable) = true := commits
    rw [lockable] at this
    cases this
  | finding l => exact same rfl (by simp)
  | updating l id => exact same rfl (by simp)
  | clearing l ids =>
    obtain ⟨w, hw, stage⟩ := List.mem_map.mp (List.mem_of_getElem? hi)
    have fits := sound.fits w hw
    rw [← Task.stage_fits, stage] at fits
    cases fits
  | waiting _ | erasing _ | leaving _ _ | gathering _ _ _ | done _ => cases commits

theorem Replays.missing {cs es : List Nat} {i : Nat} {w : State} {json name : Value}
    (h : Replays s ops cs w) (sound : w.Sound) (later : Replays s ops (cs ++ [i] ++ es) u)
    (ended : ∀ t ∈ u.tasks, t.outcome?.isSome = true) (commits : w.commits i = true)
    (hop : ops[i]? = some (.updateCache json name)) :
    (u.outcome? i = some (.ok none) ↔
      (Key.cache name).lockable = true ∧ (w.tables .caches).ofKey (.cache name) = []) := by
  have numbered := h.mirrors.numbered .caches
  have same : (Key.cache name).lockable = true →
      (applyAll (inOrder ops cs) s.tables .caches).ofKey (.cache name)
        = (w.tables .caches).ofKey (.cache name) := by
    intro lockable
    obtain ⟨p, hp, _⟩ := h.jobs i _ hop
    rw [State.commits_eq hp] at commits
    exact h.mirrors.ofKey_eq_of_commits sound lockable hp commits
  have answer := later.outcome_eq ended (n := cs.length) (i := i) (by simp) hop rfl
  rw [List.append_assoc, List.take_left] at answer
  rw [answer]
  generalize applyAll (inOrder ops cs) s.tables = T at numbered same
  cases lockable : (Key.cache name).lockable with
  | false =>
    rw [(Operation.apply_of_not_lockable rfl lockable T).2]
    simp
  | true =>
    have rows := same lockable
    rw [(Operation.apply_updateCache json lockable T).2, ← rows]
    cases found : (T .caches).ofKey (.cache name) with
    | nil => simp
    | cons r rest =>
      have mem : r ∈ (T .caches).ofKey (.cache name) := by
        rw [found]
        exact List.mem_cons_self
      simp [numbered.find?_update (Table.mem_ofKey.mp mem).1]

theorem State.idle_of_commits {i : Nat} {name : Value} {p : Phase} (fits : ∀ t ∈ s.tasks, t.Fits)
    (hi : s.stages[i]? = some ⟨.operation (.deleteSitemap name), p⟩) (commits : s.commits i = true) :
    s.tasks[i]? = some ⟨.operation (.deleteSitemap name), .idle⟩ := by
  rw [State.commits_eq hi] at commits
  rw [stages_getElem?] at hi
  obtain ⟨t, ht, stage⟩ := Option.map_eq_some_iff.mp hi
  have fit := fits t (List.mem_of_getElem? ht)
  rw [← Task.stage_fits, stage] at fit
  cases p with
  | idle => rw [ht, Task.eq_of_stage_eq stage rfl]
  | clearing _ _ | updating _ _ => cases fit
  | _ => cases commits

/-- A run without refused calls that ends all its tasks is serial, in the order of its commits. -/
theorem serialises_of_run {cs : List Nat} (unlocked : s.locks.size = 0)
    (numbered : ∀ name, (s.tables name).Numbered) (run : Run (s.withTasks ops) cs u)
    (ended : ∀ t ∈ u.tasks, t.outcome?.isSome = true) : Serialises s ops cs u := by
  have empty : s.locks.entries = [] := List.length_eq_zero_iff.mp unlocked
  have replays := Replays.of_run empty numbered run
  obtain ⟨tables, outcomes⟩ := State.performAll_eq unlocked numbered (inOrder ops cs)
  refine ⟨replays.perm ended, ?_, fun n i op hn hop key => ?_,
    fun i w v json name passes hop => ?_,
    fun i j w v x y name k id p r passes hop hj step hr gone => ?_⟩
  · rw [tables]
    exact replays.tables_eq ended
  · obtain ⟨at_n, taken⟩ := getElem?_filterMap_of_all (f := fun i => ops[i]?) replays.known n
    have hn' : (inOrder ops cs)[n]? = some op := by
      rw [inOrder, at_n, hn]
      exact hop
    rw [outcomes n op hn' key, replays.outcome_eq ended hn hop key]
    rw [inOrder, inOrder, ← taken]
  · obtain ⟨⟨ds, before⟩, commits, step, es, after⟩ := passes
    have sound := sound_of_reachable empty numbered before.reachable
    have later := Replays.of_run empty numbered ((before.step step).trans after)
    rw [if_pos commits] at later
    exact (Replays.of_run empty numbered before).missing sound later ended commits hop
  · obtain ⟨⟨ds, before⟩, commits, listing, es, after⟩ := passes
    have sound := sound_of_reachable empty numbered before.reachable
    obtain ⟨q, hq, _⟩ := (Replays.of_run empty numbered before).jobs i _ hop
    have idle := State.idle_of_commits sound.fits hq commits
    obtain ⟨t, ht, turn⟩ := State.turn_of_step sound.fits listing
    obtain rfl := Option.some.inj (idle.symm.trans ht)
    have since := (Since.of_list sound (gathers_of_reachable before.reachable) ht turn).of_run empty
      numbered (before.step listing) after
    exact since.spares
      (sound_of_reachable empty numbered ((before.step listing).trans after).reachable) hj step hr gone

/-- A document is replaced between its listing and its deletion, and the new one stays. -/
theorem serialises_of_replaced_document :
    ∃ u : State, Serialises oneDocument [.deleteSitemap (.text "a"),
        .createSitemap (.text "y") (.text "a") (.int 1), .updateCache (.int 2) (.text "b")]
        [0, 2, 1] u ∧
      (u.tables .sitemaps).rows.map Row.id = [2] ∧ u.outcome? 2 = some (.ok none) :=
  ⟨_, serialises_of_run rfl oneDocument_numbered
    (State.run_turns [0, 1, 1, 1, 3, 2, 2, 2, 1, 1, 1, 3, 3, 3, 0, 2] _) (by decide), by decide,
    by decide⟩

end

end Store
end Sitemap
