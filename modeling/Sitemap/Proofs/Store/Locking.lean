/-
The lock table in every state that operations can reach, whatever calls are refused.

A key is in the table exactly while some task holds its lock or waits for it.  The number stored is
the number of those tasks, they all have one lock, and at most one of them holds it.  So the table is
empty whenever no write is under way, and no task waits for ever: `locksExact_of_reachable`.
-/
import Sitemap.Proofs.Store.Progress

namespace Sitemap
namespace Store

/-- Whether a task holds the lock of a key or waits for it. -/
def Task.wants (k : Key) (t : Task) : Bool :=
  t.lock?.isSome && (t.job.lockKey?.any fun k' => k'.meets k)

/-- What the lock table has to do with the tasks. -/
structure State.LocksExact (s : State) : Prop where
  /-- A key is in the table exactly while a task wants it. -/
  present : ∀ k, (s.locks.lockOf? k).isSome = true ↔ ∃ t ∈ s.tasks, t.wants k = true
  /-- Its number is that of the tasks that want it, and these share its lock. -/
  shared : ∀ k l, s.locks.lockOf? k = some l →
    s.locks.users l = s.tasks.countP (·.wants k) ∧
      ∀ t ∈ s.tasks, t.wants k = true → t.lock? = some l
  /-- This holds of every entry, also of one whose key is like no other key. -/
  counted : ∀ e ∈ s.locks.entries,
    s.locks.users e.2 = s.tasks.countP (fun t => t.lock? = some e.2) ∧ 0 < s.locks.users e.2
  /-- No key has two locks, and no lock two keys. -/
  single : (s.locks.entries.Pairwise fun e f => e.1.meets f.1 = false) ∧
    (s.locks.entries.map Prod.snd).Nodup
  /-- Every lock of a task is in the table, under the key of the task. -/
  listed : ∀ t ∈ s.tasks, ∀ l, t.lock? = some l →
    ∃ k k', t.job.lockKey? = some k ∧ (k', l) ∈ s.locks.entries ∧ k'.Serves k
  /-- A lock in the table is marked as held exactly while a task holds it, and that is one task. -/
  held : ∀ e ∈ s.locks.entries,
    (s.locks.held e.2 = true ↔ ∃ t ∈ s.tasks, t.lock? = some e.2 ∧ t.holds = true)
  exclusive : ∀ (i j : Nat) (t u : Task) (l : Nat), s.tasks[i]? = some t → s.tasks[j]? = some u →
    t.lock? = some l → u.lock? = some l → t.holds = true → u.holds = true → i = j
  /-- Without a task that holds a lock or waits for one the table is empty. -/
  empty : (∀ t ∈ s.tasks, t.lock? = none) → s.locks.size = 0
  /-- While a task goes on, some task can step. -/
  live : (∃ t ∈ s.tasks, t.outcome? = none) → ∃ i, ∀ refused, (s.step i refused).isSome = true

theorem Task.wants_iff {k : Key} {t : Task} :
    t.wants k = true ↔
      ∃ l k', t.lock? = some l ∧ t.job.lockKey? = some k' ∧ k'.meets k = true := by
  unfold wants
  cases t.lock? <;> cases t.job.lockKey? <;> simp

namespace LockTable

variable {s : State}

theorem mem_claims {t : Task} (ht : t ∈ s.tasks) : t.claim ∈ s.claims := by
  rw [State.claims_eq]
  exact List.mem_map_of_mem ht

theorem exists_task {c : Claim} (hc : c ∈ s.claims) : ∃ t ∈ s.tasks, t.claim = c := by
  rw [State.claims_eq] at hc
  exact List.mem_map.mp hc

theorem lock_of_wants (h : LockTable s.claims s.locks) {k : Key} {l : Nat} {t : Task}
    (ht : t ∈ s.tasks) (hl : s.locks.lockOf? k = some l) (wants : t.wants k = true) :
    t.lock? = some l := by
  obtain ⟨m, k', hm, hk', same⟩ := Task.wants_iff.mp wants
  obtain ⟨j, entry, hj⟩ := Locks.lockOf?_eq_some hl
  obtain ⟨k'', j', hk'', entry', serves⟩ := h.listed _ (mem_claims ht) m hm
  obtain rfl : k' = k'' := Option.some.inj (hk'.symm.trans hk'')
  have one : j'.meets j = true := Key.meets_of_serves serves (.inr hj) same
  have e := h.eq_of_meets entry' entry one
  rw [hm, show m = l from congrArg Prod.snd e]

theorem wants_of_lock (h : LockTable s.claims s.locks) {k : Key} {l : Nat} {t : Task}
    (ht : t ∈ s.tasks) (hl : s.locks.lockOf? k = some l) (lock : t.lock? = some l) :
    t.wants k = true := by
  obtain ⟨j, entry, hj⟩ := Locks.lockOf?_eq_some hl
  obtain ⟨k', j', hk', entry', serves⟩ := h.listed _ (mem_claims ht) l lock
  obtain rfl : j' = j := congrArg Prod.fst (h.eq_of_number entry' entry rfl)
  refine Task.wants_iff.mpr ⟨l, k', lock, hk', ?_⟩
  rcases serves with rfl | serves
  · exact hj
  · exact Key.meets_trans (Key.meets_symm serves) hj

theorem present_of_wants (h : LockTable s.claims s.locks) {k : Key} {t : Task} (ht : t ∈ s.tasks)
    (wants : t.wants k = true) : (s.locks.lockOf? k).isSome = true := by
  obtain ⟨m, k', hm, hk', same⟩ := Task.wants_iff.mp wants
  obtain ⟨k'', j', hk'', entry', serves⟩ := h.listed _ (mem_claims ht) m hm
  obtain rfl : k' = k'' := Option.some.inj (hk'.symm.trans hk'')
  have meets : j'.meets k = true := by
    rcases serves with rfl | serves
    · exact same
    · exact Key.meets_trans serves same
  cases e : s.locks.lockOf? k with
  | some l => rfl
  | none =>
    have := Locks.lockOf?_eq_none_iff.mp e _ entry'
    rw [meets] at this
    cases this

theorem exists_claimant (h : LockTable s.claims s.locks) {e : Key × Nat} (he : e ∈ s.locks.entries) :
    ∃ t ∈ s.tasks, t.lock? = some e.2 := by
  obtain ⟨c, hc, hl⟩ := h.claimed e he
  obtain ⟨t, ht, rfl⟩ := exists_task hc
  exact ⟨t, ht, hl⟩

theorem claimants_eq (l : Nat) (s : State) :
    claimants l s.claims = s.tasks.countP (fun t => t.lock? = some l) := by
  rw [claimants, State.claims_eq, List.countP_map]
  rfl

end LockTable

/-- Whatever operations run at once, and whatever calls are refused: the lock table has exactly the
keys that tasks want, with their numbers, and some task can go on until all have ended. -/
theorem locksExact_of_reachable {s u : State} {ops : List Operation}
    (unlocked : s.locks.size = 0) (h : Reachable (s.withTasks ops) u) : u.LocksExact := by
  have entries : s.locks.entries = [] := List.length_eq_zero_iff.mp unlocked
  have table := lockTable_of_reachable entries h
  refine ⟨fun k => ?_, fun k l hl => ?_, fun e he => ?_, ⟨table.apart, table.distinct⟩,
    fun t ht l hl => table.listed _ (LockTable.mem_claims ht) l hl, fun e he => ?_, ?_, fun none => ?_,
    fun ⟨t, ht, unfinished⟩ => exists_step entries h ht unfinished⟩
  · constructor
    · intro present
      obtain ⟨l, hl⟩ := Option.isSome_iff_exists.mp present
      obtain ⟨k', entry, _⟩ := Locks.lockOf?_eq_some hl
      obtain ⟨t, ht, lock⟩ := table.exists_claimant entry
      exact ⟨t, ht, table.wants_of_lock ht hl lock⟩
    · rintro ⟨t, ht, wants⟩
      exact table.present_of_wants ht wants
  · refine ⟨?_, fun t ht wants => table.lock_of_wants ht hl wants⟩
    obtain ⟨k', entry, _⟩ := Locks.lockOf?_eq_some hl
    rw [table.counted _ entry, LockTable.claimants_eq]
    refine List.countP_congr fun t ht => ?_
    rw [decide_eq_true_eq]
    exact ⟨table.wants_of_lock ht hl, table.lock_of_wants ht hl⟩
  · have count : u.locks.users e.2 = u.tasks.countP (fun t => t.lock? = some e.2) := by
      rw [table.counted e he, LockTable.claimants_eq]
    obtain ⟨t, ht, lock⟩ := table.exists_claimant he
    refine ⟨count, ?_⟩
    rw [count]
    exact List.countP_pos_iff.mpr ⟨t, ht, by simpa using lock⟩
  · rw [table.marked e he]
    constructor
    · rintro ⟨c, hc, lock, holds⟩
      obtain ⟨t, ht, rfl⟩ := LockTable.exists_task hc
      exact ⟨t, ht, lock, holds⟩
    · rintro ⟨t, ht, lock, holds⟩
      exact ⟨_, LockTable.mem_claims ht, lock, holds⟩
  · intro i j t w l hi hj lock lock' holds holds'
    refine table.exclusive i j t.claim w.claim l ?_ ?_ lock lock' holds holds'
    · rw [State.claims_eq, List.getElem?_map, hi]; rfl
    · rw [State.claims_eq, List.getElem?_map, hj]; rfl
  · refine List.length_eq_zero_iff.mpr (List.eq_nil_iff_forall_not_mem.mpr fun e he => ?_)
    obtain ⟨t, ht, lock⟩ := table.exists_claimant he
    rw [none t ht] at lock
    cases lock

/-- One write holds the lock of a cache, a second waits for it, and a third, whose find was refused,
has left it: the table has one entry, which counts two. -/
theorem locksExact_of_three_writers :
    let ops : List Operation :=
      [.createCache (.int 1) (.text "a"), .updateCache (.int 2) (.text "a"),
        .createCache (.int 3) (.text "a")]
    let u := ((({} : State).withTasks ops).turns [(2, none), (2, none), (0, none),
      (2, some (.connection .find 1)), (1, none), (2, none), (0, none)])
    u.LocksExact ∧ u.locks.lockOf? (.cache (.text "a")) = some 0 ∧ u.locks.users 0 = 2 :=
  ⟨locksExact_of_reachable rfl (reachable_turns _ _), by decide, by decide⟩

end Store
end Sitemap
