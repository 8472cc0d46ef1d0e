/-
The lock table follows the tasks.

A task has a claim: the lock that it holds or waits for, the key that it is for, and whether it
holds it.  `LockTable` relates the claims of all tasks to the table: the table has a lock exactly
while some task claims it, counts those tasks, and marks the lock as held exactly while one of them
holds it, which is then the only one.  Four moves change claims (asking, taking, leaving, and new
tasks that claim nothing), each keeps the relation, and every turn is one of them or none.
-/
import Sitemap.Proofs.Store.Turn

namespace Sitemap
namespace Store

/-- Whether a lock that was made for the key `k'` serves `k`: it is the same key, or the very value
it was made for. -/
def Key.Serves (k' k : Key) : Prop := k' = k ∨ k'.meets k = true

theorem Key.meets_of_serves {a b k l : Key} (ha : a.Serves k) (hb : b.Serves l)
    (h : k.meets l = true) : a.meets b = true := by
  have hak : a.meets l = true := by
    rcases ha with rfl | ha
    · exact h
    · exact meets_trans ha h
  rcases hb with rfl | hb
  · exact hak
  · exact meets_trans hak (meets_symm hb)

/-- What a task has to do with the locks. -/
structure Claim where
  lock? : Option Nat
  key? : Option Key
  holds : Bool

def Task.claim (t : Task) : Claim := ⟨t.lock?, t.job.lockKey?, t.holds⟩

theorem Task.stage_claim (t : Task) : t.stage.claim = t.claim := by
  rw [claim, claim, stage_lock?, stage_job, stage_holds]

namespace State

def claims (s : State) : List Claim := s.stages.map Task.claim

theorem claims_eq (s : State) : s.claims = s.tasks.map Task.claim := by
  rw [claims, stages, List.map_map]
  exact List.map_congr_left fun t _ => t.stage_claim

end State

/-- How many tasks claim a lock. -/
def claimants (l : Nat) (cs : List Claim) : Nat := cs.countP fun c => c.lock? = some l

/-- Whether some task holds a lock. -/
def Holding (l : Nat) (cs : List Claim) : Prop := ∃ c ∈ cs, c.lock? = some l ∧ c.holds = true

/-- No two tasks hold one lock. -/
def Exclusive (cs : List Claim) : Prop :=
  ∀ (i j : Nat) (c d : Claim) (l : Nat), cs[i]? = some c → cs[j]? = some d →
    c.lock? = some l → d.lock? = some l → c.holds = true → d.holds = true → i = j

/-- The claims of all tasks and the table of locks belong together. -/
structure LockTable (cs : List Claim) (ls : Locks) : Prop where
  numbered : ∀ e ∈ ls.entries, e.2 < ls.next
  distinct : (ls.entries.map Prod.snd).Nodup
  apart : ls.entries.Pairwise fun e f => e.1.meets f.1 = false
  counted : ∀ e ∈ ls.entries, ls.users e.2 = claimants e.2 cs
  claimed : ∀ e ∈ ls.entries, ∃ c ∈ cs, c.lock? = some e.2
  listed : ∀ c ∈ cs, ∀ l, c.lock? = some l →
    ∃ k k', c.key? = some k ∧ (k', l) ∈ ls.entries ∧ k'.Serves k
  marked : ∀ e ∈ ls.entries, (ls.held e.2 = true ↔ Holding e.2 cs)
  exclusive : Exclusive cs

namespace Locks

theorem lockOf?_eq_some {k : Key} {l : Nat} {ls : Locks} (h : ls.lockOf? k = some l) :
    ∃ k', (k', l) ∈ ls.entries ∧ k'.meets k = true := by
  unfold lockOf? at h
  obtain ⟨⟨k', l'⟩, he, rfl⟩ := Option.map_eq_some_iff.mp h
  exact ⟨k', List.mem_of_find?_eq_some he, by simpa using List.find?_some he⟩

theorem lockOf?_eq_none_iff {k : Key} {ls : Locks} :
    ls.lockOf? k = none ↔ ∀ e ∈ ls.entries, e.1.meets k = false := by
  simp [lockOf?]

theorem ask_of_some {k : Key} {l : Nat} {ls : Locks} (h : ls.lockOf? k = some l) :
    ls.ask k = { ls with users := fun m => if m = l then ls.users l + 1 else ls.users m } := by
  simp only [ask, h]

theorem ask_of_none {k : Key} {ls : Locks} (h : ls.lockOf? k = none) :
    ls.ask k =
      { entries := ls.entries ++ [(k, ls.next)]
        users := fun m => if m = ls.next then 1 else ls.users m
        held := fun m => if m = ls.next then false else ls.held m
        next := ls.next + 1 } := by
  simp only [ask, h]

end Locks

theorem claimants_set {cs : List Claim} {i : Nat} {c : Claim} (h : cs[i]? = some c) (d : Claim)
    (l : Nat) :
    claimants l (cs.set i d) + (if c.lock? = some l then 1 else 0)
      = claimants l cs + (if d.lock? = some l then 1 else 0) := by
  simpa [claimants] using countP_set (fun c : Claim => decide (c.lock? = some l)) (b := d) h

theorem claimants_eq_zero {cs : List Claim} {l : Nat} (h : ∀ c ∈ cs, c.lock? ≠ some l) :
    claimants l cs = 0 := by
  simpa [claimants, List.countP_eq_zero] using h

theorem holding_set_iff {cs : List Claim} {i l : Nat} {c d : Claim} (hi : cs[i]? = some c)
    (hc : c.holds = false) (hd : d.holds = false) : Holding l (cs.set i d) ↔ Holding l cs := by
  constructor
  · rintro ⟨x, hx, hl, holds⟩
    rcases List.mem_or_eq_of_mem_set hx with hx | rfl
    · exact ⟨x, hx, hl, holds⟩
    · rw [hd] at holds; cases holds
  · rintro ⟨x, hx, hl, holds⟩
    refine ⟨x, mem_set_of_ne hi hx ?_, hl, holds⟩
    rintro rfl
    rw [hc] at holds; cases holds

theorem mem_set_of_lock {cs : List Claim} {i m : Nat} {k? : Option Key} {b : Bool} {c d : Claim}
    (hi : cs[i]? = some ⟨none, k?, b⟩) (hc : c ∈ cs) (hm : c.lock? = some m) : c ∈ cs.set i d := by
  refine mem_set_of_ne hi hc ?_
  rintro rfl
  cases hm

theorem Exclusive.set {cs : List Claim} {i : Nat} {d : Claim} (h : Exclusive cs)
    (hd : d.holds = false) : Exclusive (cs.set i d) := by
  intro a b x y l hx hy hl hm holds holds'
  rcases getElem?_set_cases hx with ⟨_, rfl⟩ | ⟨_, hx⟩
  · rw [hd] at holds; cases holds
  · rcases getElem?_set_cases hy with ⟨_, rfl⟩ | ⟨_, hy⟩
    · rw [hd] at holds'; cases holds'
    · exact h a b x y l hx hy hl hm holds holds'

namespace LockTable

variable {cs : List Claim} {ls : Locks}

theorem eq_of_number (h : LockTable cs ls) {e f : Key × Nat} (he : e ∈ ls.entries)
    (hf : f ∈ ls.entries) (same : e.2 = f.2) : e = f :=
  List.inj_on_of_nodup_map h.distinct he hf same

theorem eq_of_meets (h : LockTable cs ls) {e f : Key × Nat} (he : e ∈ ls.entries)
    (hf : f ∈ ls.entries) (same : e.1.meets f.1 = true) : e = f := by
  have forward : ls.entries.Pairwise fun e f => e.1.meets f.1 = true → e = f :=
    h.apart.imp fun apart same => by rw [apart] at same; cases same
  have backward : ls.entries.Pairwise (flip fun e f => e.1.meets f.1 = true → e = f) :=
    h.apart.imp fun apart same => by rw [Key.meets_symm same] at apart; cases apart
  exact forward.forall_of_forall_of_flip (fun _ _ _ => rfl) backward he hf same

theorem lock_eq_of_meets (h : LockTable cs ls) {c d : Claim} {l m : Nat} {j k : Key}
    (hc : c ∈ cs) (hd : d ∈ cs) (hl : c.lock? = some l) (hm : d.lock? = some m)
    (hj : c.key? = some j) (hk : d.key? = some k) (same : j.meets k = true) : l = m := by
  obtain ⟨j', a, ej, ha, sa⟩ := h.listed c hc l hl
  obtain ⟨k', b, ek, hb, sb⟩ := h.listed d hd m hm
  obtain rfl : j = j' := Option.some.inj (hj.symm.trans ej)
  obtain rfl : k = k' := Option.some.inj (hk.symm.trans ek)
  exact congrArg Prod.snd (h.eq_of_meets ha hb (Key.meets_of_serves sa sb same))

/-- Two tasks that hold locks at one time hold them for different keys. -/
theorem apart_of_holds (h : LockTable cs ls) {i j : Nat} {c d : Claim} {l m : Nat} {k k' : Key}
    (hc : cs[i]? = some c) (hd : cs[j]? = some d) (ne : i ≠ j) (hl : c.lock? = some l)
    (hm : d.lock? = some m) (hk : c.key? = some k) (hk' : d.key? = some k')
    (holds : c.holds = true) (holds' : d.holds = true) : k.meets k' = false := by
  by_contra same
  have e : l = m := h.lock_eq_of_meets (List.mem_of_getElem? hc) (List.mem_of_getElem? hd) hl hm hk
    hk' (by simpa using same)
  exact ne (h.exclusive i j c d l hc hd hl (e ▸ hm) holds holds')

theorem of_idle (empty : ls.entries = []) (idle : ∀ c ∈ cs, c.lock? = none) : LockTable cs ls where
  numbered := by simp [empty]
  distinct := by simp [empty]
  apart := by simp [empty]
  counted := by simp [empty]
  claimed := by simp [empty]
  listed c hc l hl := by rw [idle c hc] at hl; cases hl
  marked := by simp [empty]
  exclusive i j c d l hc _ hl _ _ _ := by rw [idle c (List.mem_of_getElem? hc)] at hl; cases hl

theorem append (h : LockTable cs ls) {new : List Claim} (idle : ∀ c ∈ new, c.lock? = none) :
    LockTable (cs ++ new) ls where
  numbered := h.numbered
  distinct := h.distinct
  apart := h.apart
  counted e he := by
    have : claimants e.2 new = 0 := claimants_eq_zero fun c hc => by rw [idle c hc]; simp
    rw [h.counted e he, claimants, claimants, List.countP_append]
    exact (Nat.add_eq_left.mpr this).symm
  claimed e he := by
    obtain ⟨c, hc, hl⟩ := h.claimed e he
    exact ⟨c, List.mem_append_left _ hc, hl⟩
  listed c hc l hl := by
    rcases List.mem_append.mp hc with hc | hc
    · exact h.listed c hc l hl
    · rw [idle c hc] at hl; cases hl
  marked e he := by
    rw [h.marked e he]
    constructor
    · rintro ⟨c, hc, hl, held⟩
      exact ⟨c, List.mem_append_left _ hc, hl, held⟩
    · rintro ⟨c, hc, hl, held⟩
      rcases List.mem_append.mp hc with hc | hc
      · exact ⟨c, hc, hl, held⟩
      · rw [idle c hc] at hl; cases hl
  exclusive i j c d l hc hd hl hm := by
    have old {i : Nat} {c : Claim} (hc : (cs ++ new)[i]? = some c) (hl : c.lock? = some l) :
        cs[i]? = some c := by
      rcases Nat.lt_or_ge i cs.length with hi | hi
      · rwa [List.getElem?_append_left hi] at hc
      · rw [List.getElem?_append_right hi] at hc
        rw [idle c (List.mem_of_getElem? hc)] at hl
        cases hl
    exact h.exclusive i j c d l (old hc hl) (old hd hm) hl hm

theorem ask_used (h : LockTable cs ls) {i l : Nat} {k : Key}
    (hi : cs[i]? = some ⟨none, some k, false⟩) (used : ls.lockOf? k = some l) :
    LockTable (cs.set i ⟨some l, some k, false⟩) (ls.ask k) := by
  obtain ⟨k', hk', same⟩ := Locks.lockOf?_eq_some used
  rw [Locks.ask_of_some used]
  refine ⟨h.numbered, h.distinct, h.apart, fun e he => ?_, fun e he => ?_, fun c hc m hm => ?_,
    fun e he => ?_, h.exclusive.set rfl⟩
  · have count := claimants_set hi ⟨some l, some k, false⟩ e.2
    have before := h.counted e he
    by_cases el : e.2 = l
    · simp [el] at count before ⊢
      omega
    · simp [el, Ne.symm el] at count ⊢
      omega
  · obtain ⟨c, hc, hm⟩ := h.claimed e he
    exact ⟨c, mem_set_of_lock hi hc hm, hm⟩
  · rcases List.mem_or_eq_of_mem_set hc with hc | rfl
    · exact h.listed c hc m hm
    · obtain rfl : l = m := Option.some.inj hm
      exact ⟨k, k', rfl, hk', .inr same⟩
  · rw [h.marked e he, holding_set_iff hi rfl rfl]

theorem ask_new (h : LockTable cs ls) {i : Nat} {k : Key}
    (hi : cs[i]? = some ⟨none, some k, false⟩) (unused : ls.lockOf? k = none) :
    LockTable (cs.set i ⟨some ls.next, some k, false⟩) (ls.ask k) := by
  have apart := Locks.lockOf?_eq_none_iff.mp unused
  rw [Locks.ask_of_none unused]
  have below {c : Claim} {m : Nat} (hc : c ∈ cs) (hm : c.lock? = some m) : m < ls.next := by
    obtain ⟨_, k', _, hk', _⟩ := h.listed c hc m hm
    exact h.numbered _ hk'
  have fresh : claimants ls.next cs = 0 := claimants_eq_zero fun c hc hm => by
    have := below hc hm
    omega
  have number {e : Key × Nat} (he : e ∈ ls.entries) : e.2 ≠ ls.next := by
    have := h.numbered e he
    omega
  refine ⟨fun e he => ?_, ?_, ?_, fun e he => ?_, fun e he => ?_, fun c hc m hm => ?_,
    fun e he => ?_, h.exclusive.set rfl⟩
  · show e.2 < ls.next + 1
    rcases List.mem_append.mp he with he | he
    · exact Nat.lt_succ_of_lt (h.numbered e he)
    · rw [List.mem_singleton.mp he]
      exact Nat.lt_succ_self _
  · simp only [List.map_append, List.map_cons, List.map_nil]
    refine List.nodup_append.mpr ⟨h.distinct, by simp, fun a ha b hb => ?_⟩
    obtain ⟨e, he, rfl⟩ := List.mem_map.mp ha
    rw [List.mem_singleton.mp hb]
    exact number he
  · refine List.pairwise_append.mpr ⟨h.apart, List.pairwise_singleton _ _, fun e he f hf => ?_⟩
    rw [List.mem_singleton.mp hf]
    exact apart e he
  · have count := claimants_set hi ⟨some ls.next, some k, false⟩ e.2
    rcases List.mem_append.mp he with he | he
    · have before := h.counted e he
      simp [number he, Ne.symm (number he)] at count ⊢
      omega
    · rw [List.mem_singleton.mp he] at count ⊢
      simp only [if_true] at count ⊢
      simp only [reduceCtorEq, if_false] at count
      omega
  · rcases List.mem_append.mp he with he | he
    · obtain ⟨c, hc, hm⟩ := h.claimed e he
      exact ⟨c, mem_set_of_lock hi hc hm, hm⟩
    · exact ⟨_, mem_set_self hi, by rw [List.mem_singleton.mp he]⟩
  · rcases List.mem_or_eq_of_mem_set hc with hc | rfl
    · obtain ⟨j, j', hj, hj', serves⟩ := h.listed c hc m hm
      exact ⟨j, j', hj, List.mem_append_left _ hj', serves⟩
    · obtain rfl : ls.next = m := Option.some.inj hm
      exact ⟨k, k, rfl, List.mem_append_right _ (List.mem_singleton_self _), .inl rfl⟩
  · rcases List.mem_append.mp he with he | he
    · simp only [number he, if_false]
      rw [h.marked e he, holding_set_iff hi rfl rfl]
    · rw [List.mem_singleton.mp he]
      simp only [if_true, Bool.false_eq_true, false_iff]
      rw [holding_set_iff hi rfl rfl]
      rintro ⟨c, hc, hm, _⟩
      have := below hc hm
      omega

theorem ask (h : LockTable cs ls) {i : Nat} {k : Key}
    (hi : cs[i]? = some ⟨none, some k, false⟩) :
    LockTable (cs.set i ⟨some (ls.lockFor k), some k, false⟩) (ls.ask k) := by
  unfold Locks.lockFor
  cases e : ls.lockOf? k with
  | some l => exact h.ask_used hi e
  | none => exact h.ask_new hi e

theorem take (h : LockTable cs ls) {i l : Nat} {k? : Option Key}
    (hi : cs[i]? = some ⟨some l, k?, false⟩) (free : ls.held l = false) :
    LockTable (cs.set i ⟨some l, k?, true⟩) (ls.take l) := by
  have mem : ⟨some l, k?, false⟩ ∈ cs := List.mem_of_getElem? hi
  obtain ⟨_, k', _, hk', _⟩ := h.listed _ mem l rfl
  have nobody : ¬ Holding l cs := by
    rw [← h.marked _ hk', free]
    simp
  -- The new claim is to the lock of the old one.
  have stays {c : Claim} {m : Nat} (hc : c ∈ cs) (hm : c.lock? = some m) :
      ∃ d ∈ cs.set i ⟨some l, k?, true⟩, d.lock? = some m := by
    by_cases e : c = ⟨some l, k?, false⟩
    · subst e; exact ⟨_, mem_set_self hi, hm⟩
    · exact ⟨c, mem_set_of_ne hi hc e, hm⟩
  refine ⟨h.numbered, h.distinct, h.apart, fun e he => ?_, fun e he => ?_, fun c hc m hm => ?_,
    fun e he => ?_, ?_⟩
  · have count := claimants_set hi ⟨some l, k?, true⟩ e.2
    have before := h.counted e he
    dsimp only [Locks.take] at count ⊢
    omega
  · obtain ⟨c, hc, hm⟩ := h.claimed e he
    exact stays hc hm
  · rcases List.mem_or_eq_of_mem_set hc with hc | rfl
    · exact h.listed c hc m hm
    · exact h.listed _ mem m hm
  · show ((if e.2 = l then true else ls.held e.2) = true ↔ _)
    by_cases el : e.2 = l
    · simp only [el, if_true, true_iff]
      exact ⟨_, mem_set_self hi, rfl, rfl⟩
    · rw [if_neg el, h.marked e he]
      constructor
      · rintro ⟨c, hc, hm, holds⟩
        refine ⟨c, mem_set_of_ne hi hc ?_, hm, holds⟩
        rintro rfl
        cases holds
      · rintro ⟨c, hc, hm, holds⟩
        rcases List.mem_or_eq_of_mem_set hc with hc | rfl
        · exact ⟨c, hc, hm, holds⟩
        · exact absurd (Option.some.inj hm).symm el
  · intro a b x y m hx hy hm hm' holds holds'
    rcases getElem?_set_cases hx with ⟨ea, ex⟩ | ⟨_, oldx⟩
    · rcases getElem?_set_cases hy with ⟨eb, _⟩ | ⟨_, oldy⟩
      · exact ea.trans eb.symm
      · subst ex
        obtain rfl : l = m := Option.some.inj hm
        exact absurd ⟨y, List.mem_of_getElem? oldy, hm', holds'⟩ nobody
    · rcases getElem?_set_cases hy with ⟨_, ey⟩ | ⟨_, oldy⟩
      · subst ey
        obtain rfl : l = m := Option.some.inj hm'
        exact absurd ⟨x, List.mem_of_getElem? oldx, hm, holds⟩ nobody
      · exact h.exclusive a b x y m oldx oldy hm hm' holds holds'

theorem leave (h : LockTable cs ls) {i l : Nat} {k? : Option Key}
    (hi : cs[i]? = some ⟨some l, k?, true⟩) :
    LockTable (cs.set i ⟨none, k?, false⟩) (ls.leave l) := by
  have mem : ⟨some l, k?, true⟩ ∈ cs := List.mem_of_getElem? hi
  obtain ⟨_, k', _, hk', _⟩ := h.listed _ mem l rfl
  have count (m : Nat) := claimants_set hi ⟨none, k?, false⟩ m
  have left : claimants l (cs.set i ⟨none, k?, false⟩) = ls.users l - 1 := by
    have := count l
    have := h.counted _ hk'
    simp only [if_true, reduceCtorEq, if_false] at *
    omega
  have old {e : Key × Nat} (he : e ∈ (ls.leave l).entries) : e ∈ ls.entries := by
    simp only [Locks.leave] at he
    split at he
    · exact (List.mem_filter.mp he).1
    · exact he
  -- The entry of the lock goes only when nobody claims it any more.
  have kept {e : Key × Nat} {c : Claim} (he : e ∈ ls.entries) (hc : c ∈ cs.set i ⟨none, k?, false⟩)
      (hm : c.lock? = some e.2) : e ∈ (ls.leave l).entries := by
    simp only [Locks.leave]
    split
    · next none =>
      refine List.mem_filter.mpr ⟨he, ?_⟩
      have : e.2 ≠ l := by
        intro el
        have : 0 < claimants l (cs.set i ⟨Option.none, k?, false⟩) :=
          List.countP_pos_iff.mpr ⟨c, hc, by simpa [el] using hm⟩
        omega
      simpa using this
    · exact he
  have sublist : (ls.leave l).entries.Sublist ls.entries := by
    simp only [Locks.leave]
    split
    · exact List.filter_sublist
    · exact List.Sublist.refl _
  refine ⟨fun e he => h.numbered e (old he), h.distinct.sublist (sublist.map _),
    h.apart.sublist sublist, fun e he => ?_, fun e he => ?_, fun c hc m hm => ?_, fun e he => ?_,
    h.exclusive.set rfl⟩
  · show (if e.2 = l then ls.users l - 1 else ls.users e.2) = _
    by_cases el : e.2 = l
    · rw [if_pos el, el, left]
    · rw [if_neg el, h.counted e (old he)]
      have := count e.2
      simp only [Option.some.injEq, Ne.symm el, if_false, reduceCtorEq] at this
      omega
  · have pos : 0 < claimants e.2 (cs.set i ⟨none, k?, false⟩) := by
      by_cases el : e.2 = l
      · rw [el, left]
        simp only [Locks.leave] at he
        split at he
        · exact absurd el (by simpa using (List.mem_filter.mp he).2)
        · omega
      · obtain ⟨c, hc, hm⟩ := h.claimed e (old he)
        refine List.countP_pos_iff.mpr ⟨c, mem_set_of_ne hi hc ?_, by simpa using hm⟩
        rintro rfl
        exact el (Option.some.inj hm).symm
    obtain ⟨c, hc, hm⟩ := List.countP_pos_iff.mp pos
    exact ⟨c, hc, by simpa using hm⟩
  · rcases List.mem_or_eq_of_mem_set hc with hc' | rfl
    · obtain ⟨j, j', hj, hj', serves⟩ := h.listed c hc' m hm
      exact ⟨j, j', hj, kept hj' hc hm, serves⟩
    · cases hm
  · show ((if e.2 = l then false else ls.held e.2) = true ↔ _)
    by_cases el : e.2 = l
    · simp only [el, if_true, Bool.false_eq_true, false_iff]
      rintro ⟨c, hc, hm, holds⟩
      obtain ⟨j, hj⟩ := List.mem_iff_getElem?.mp hc
      rcases getElem?_set_cases hj with ⟨_, rfl⟩ | ⟨ne, hj⟩
      · cases hm
      · exact ne (h.exclusive j i c _ l hj hi hm rfl holds rfl)
    · rw [if_neg el, h.marked e (old he)]
      constructor
      · rintro ⟨c, hc, hm, holds⟩
        refine ⟨c, mem_set_of_ne hi hc ?_, hm, holds⟩
        rintro rfl
        exact el (Option.some.inj hm).symm
      · rintro ⟨c, hc, hm, holds⟩
        rcases List.mem_or_eq_of_mem_set hc with hc | rfl
        · exact ⟨c, hc, hm, holds⟩
        · cases hm

theorem of_turn {s v : State} {i : Nat} {t : Task} {refused : Option Refusal}
    (h : LockTable s.claims s.locks) (fits : t.Fits) (ht : s.tasks[i]? = some t)
    (turn : Turn s i t refused v) : LockTable v.claims v.locks := by
  have hi : s.claims[i]? = some t.claim := by rw [State.claims_eq, List.getElem?_map, ht]; rfl
  have changed {w : State} {u : Task} (e : w.stages = s.stages.set i u)
      (moved : LockTable (s.claims.set i u.claim) w.locks) : LockTable w.claims w.locks := by
    rw [State.claims, e, List.map_set]
    exact moved
  -- Most turns change no claim.
  have same {w : State} {u : Task} (e : w.stages = s.stages.set i u) (same : u.claim = t.claim)
      (locks : w.locks = s.locks) : LockTable w.claims w.locks := by
    refine changed e ?_
    rw [same, set_eq_self hi, locks]
    exact h
  cases turn with
  | @ask job k _ key lockable =>
    have hi' : s.claims[i]? = some ⟨none, some k, false⟩ := by rw [hi, ← key]; rfl
    refine changed (State.stages_setPhase _ rfl) ?_
    have e : Task.claim ⟨job, .waiting (s.locks.lockFor k)⟩
        = ⟨some (s.locks.lockFor k), some k, false⟩ := by rw [← key]; rfl
    rw [e]
    exact h.ask hi'
  | turnedAway _ _ => exact same (State.stages_finish _ _ _ _) rfl (State.finish_locks _ _ _ _)
  | read _ _ => exact same (State.stages_setPhase _ rfl) rfl rfl
  | @list name rows _ =>
    have e := State.stages_list i ⟨.operation (.deleteSitemap name), .idle⟩ rows.length rows.length
      rows s
    rw [State.claims, e, List.map_append, List.map_set]
    have stays : s.claims.set i (Task.claim ⟨.operation (.deleteSitemap name), .gathering 0 0 none⟩)
        = s.claims := set_eq_self hi
    rw [State.claims] at stays
    rw [stays]
    refine h.append fun c hc => ?_
    obtain ⟨u, hu, rfl⟩ := List.mem_map.mp hc
    obtain ⟨r, _, rfl⟩ := State.mem_erasers.mp hu
    rfl
  | @take job l _ free =>
    refine changed (State.stages_setPhase _ (State.afterLock_isGathering job l)) ?_
    have e : Task.claim ⟨job, State.afterLock job l⟩ = ⟨some l, job.lockKey?, true⟩ := by
      cases job <;> rfl
    rw [e]
    exact h.take hi free
  | @fail job p l e lock holds _ =>
    refine same (State.stages_setPhase _ rfl) ?_ rfl
    rw [Task.claim, Task.claim, lock, holds]
    rfl
  | @find op k l key =>
    refine same (State.stages_setPhase _ (State.afterFind_isGathering _ _ _)) ?_ rfl
    unfold State.afterFind
    split <;> rfl
  | clear key => exact same (State.stages_setPhase _ rfl) rfl rfl
  | insert key => exact same (State.stages_setPhase _ rfl) rfl rfl
  | update key => exact same (State.stages_setPhase _ rfl) rfl rfl
  | erase => exact same (State.stages_setPhase _ rfl) rfl rfl
  | @leave job l _ o =>
    refine changed (State.stages_finish _ _ _ _) ?_
    rw [State.finish_locks]
    exact h.leave hi
  | gathered _ => exact same (State.stages_finish _ _ _ _) rfl (State.finish_locks _ _ _ _)

theorem withTasks {s : State} (empty : s.locks.entries = []) (ops : List Operation) :
    LockTable (s.withTasks ops).claims (s.withTasks ops).locks := by
  refine of_idle empty fun c hc => ?_
  rw [State.claims, State.stages_withTasks, List.mem_map] at hc
  obtain ⟨t, ht, rfl⟩ := hc
  obtain ⟨op, _, rfl⟩ := List.mem_map.mp ht
  rfl

end LockTable

/-- In every state that operations can reach, the locks follow the tasks. -/
theorem lockTable_of_reachable {s u : State} {ops : List Operation} (empty : s.locks.entries = [])
    (h : Reachable (s.withTasks ops) u) : LockTable u.claims u.locks := by
  induction h with
  | start => exact .withTasks empty ops
  | @step u v i refused reached taken ih =>
    have fits := fits_of_reachable reached (State.fits_withTasks ops s)
    obtain ⟨t, ht, turn⟩ := State.turn_of_step fits taken
    exact ih.of_turn (fits t (List.mem_of_getElem? ht)) ht turn

end Store
end Sitemap
