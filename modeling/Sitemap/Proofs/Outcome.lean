/-
Steps that can fail.

When a sequence of steps succeeds, each of them did: what a bind, a map or a traversal returned is
taken apart into the results of its steps, so that no failing branch is met again.  The other way, a
traversal succeeds when each of its steps does.

A sequence that fails does so by its first step that fails.
-/
import Mathlib.Data.List.Forall2

namespace Sitemap

theorem exists_of_bind {ε α β : Type} {x : Except ε α} {f : α → Except ε β} {b : β}
    (h : x >>= f = .ok b) : ∃ a, x = .ok a ∧ f a = .ok b := by
  cases x with
  | error e => cases h
  | ok a => exact ⟨a, rfl, h⟩

theorem exists_of_map {ε α β : Type} {x : Except ε α} {f : α → β} {b : β}
    (h : x.map f = .ok b) : ∃ a, x = .ok a ∧ b = f a := by
  cases x with
  | error e => cases h
  | ok a => cases h; exact ⟨a, rfl, rfl⟩

theorem ok_of_mapError {ε δ α : Type} {x : Except ε α} {f : ε → δ} {a : α}
    (h : x.mapError f = .ok a) : x = .ok a := by
  cases x with
  | error e => cases h
  | ok b => cases h; rfl

theorem forall₂_of_mapM {ε α β : Type} {f : α → Except ε β} {xs : List α} {ys : List β}
    (h : xs.mapM f = .ok ys) : List.Forall₂ (fun x y => f x = .ok y) xs ys := by
  induction xs generalizing ys with
  | nil =>
    rw [List.mapM_nil] at h
    cases h
    exact .nil
  | cons x xs ih =>
    rw [List.mapM_cons] at h
    obtain ⟨y, first, h⟩ := exists_of_bind h
    obtain ⟨zs, rest, h⟩ := exists_of_bind h
    cases h
    exact .cons first (ih rest)

theorem mapM_of_forall₂ {ε α β : Type} {f : α → Except ε β} {xs : List α} {ys : List β}
    (h : List.Forall₂ (fun x y => f x = .ok y) xs ys) : xs.mapM f = .ok ys := by
  induction h with
  | nil => rfl
  | cons here _ ih =>
    rw [List.mapM_cons, here, ih]
    rfl

/-- What a traversal returns, when it is known what each of its steps returns. -/
theorem mapM_eq_ok_iff {ε α β : Type} {f : α → Except ε β} {R : α → β → Prop}
    (each : ∀ x y, f x = .ok y ↔ R x y) {xs : List α} {ys : List β} :
    xs.mapM f = .ok ys ↔ List.Forall₂ R xs ys :=
  ⟨fun done => (forall₂_of_mapM done).imp fun x y => (each x y).mp,
    fun all => mapM_of_forall₂ (all.imp fun x y => (each x y).mpr)⟩

theorem mapM_ok {ε α β : Type} {f : α → Except ε β} {g : α → β} {xs : List α}
    (h : ∀ x ∈ xs, f x = .ok (g x)) : xs.mapM f = .ok (xs.map g) := by
  induction xs with
  | nil => rfl
  | cons x xs ih =>
    rw [List.mapM_cons, h x List.mem_cons_self, ih fun y hy => h y (List.mem_cons_of_mem _ hy)]
    rfl

/-- What is done to each item before can be done to each result afterwards. -/
theorem mapM_map_of_comm {ε α β γ δ : Type} {f : α → Except ε β} {g : γ → Except ε δ} {u : α → γ}
    {w : β → δ} (comm : ∀ x, g (u x) = (f x).map w) (xs : List α) :
    (xs.map u).mapM g = (xs.mapM f).map (List.map w) := by
  induction xs with
  | nil => rfl
  | cons x xs ih =>
    rw [List.map_cons, List.mapM_cons, List.mapM_cons, ih, comm]
    cases f x with
    | error e => rfl
    | ok y => cases xs.mapM f <;> rfl

/-- What is made of each result can be made of all of them afterwards. -/
theorem mapM_map {ε α β γ : Type} (f : α → Except ε β) (g : β → γ) (xs : List α) :
    xs.mapM (fun x => (f x).map g) = (xs.mapM f).map (List.map g) := by
  have outside := mapM_map_of_comm (g := fun x => (f x).map g) (u := id) (fun _ => rfl) xs
  rwa [List.map_id] at outside

theorem exists_of_mapM {ε α β : Type} {f : α → Except ε β} {xs : List α} {ys : List β}
    (h : xs.mapM f = .ok ys) {x : α} (hx : x ∈ xs) : ∃ y ∈ ys, f x = .ok y := by
  have all := forall₂_of_mapM h
  clear h
  induction all with
  | nil => cases hx
  | @cons a b _ _ here _ ih =>
    rcases List.mem_cons.mp hx with rfl | hx
    · exact ⟨b, List.mem_cons_self, here⟩
    · obtain ⟨y, hy, e⟩ := ih hx
      exact ⟨y, List.mem_cons_of_mem _ hy, e⟩

/-! ## Failing -/

theorem bind_eq_error_iff {ε α β : Type} {x : Except ε α} {f : α → Except ε β} {e : ε} :
    x >>= f = .error e ↔ x = .error e ∨ ∃ a, x = .ok a ∧ f a = .error e := by
  cases x with
  | error d =>
    show Except.error d = .error e ↔ _
    simp
  | ok a =>
    show f a = .error e ↔ _
    simp

theorem map_eq_error_iff {ε α β : Type} {x : Except ε α} {f : α → β} {e : ε} :
    x.map f = .error e ↔ x = .error e := by
  cases x <;> simp [Except.map]

theorem mapError_eq_error_iff {ε δ α : Type} {x : Except ε α} {f : ε → δ} {d : δ} :
    x.mapError f = .error d ↔ ∃ e, x = .error e ∧ f e = d := by
  cases x <;> simp [Except.mapError]

/-- A traversal fails by the first of its items that fails. -/
theorem mapM_eq_error_iff {ε α β : Type} {f : α → Except ε β} {xs : List α} {e : ε} :
    xs.mapM f = .error e ↔ ∃ before x after, xs = before ++ x :: after ∧
      (∀ y ∈ before, ∃ b, f y = .ok b) ∧ f x = .error e := by
  induction xs with
  | nil =>
    rw [List.mapM_nil]
    constructor
    · intro h
      cases h
    · rintro ⟨before, x, after, empty, -⟩
      simp at empty
  | cons x xs ih =>
    rw [List.mapM_cons, bind_eq_error_iff]
    constructor
    · rintro (here | ⟨b, first, later⟩)
      · exact ⟨[], x, xs, rfl, List.forall_mem_nil _, here⟩
      · obtain ⟨before, y, after, rfl, succeed, fails⟩ : ∃ before y after,
            xs = before ++ y :: after ∧ (∀ z ∈ before, ∃ b, f z = .ok b) ∧ f y = .error e := by
          rcases bind_eq_error_iff.mp later with there | ⟨_, _, done⟩
          · exact ih.mp there
          · cases done
        exact ⟨x :: before, y, after, rfl, List.forall_mem_cons.mpr ⟨⟨b, first⟩, succeed⟩, fails⟩
    · rintro ⟨before, y, after, split, succeed, fails⟩
      cases before with
      | nil =>
        obtain ⟨rfl, rfl⟩ := List.cons.inj split
        exact .inl fails
      | cons z before =>
        obtain ⟨rfl, rfl⟩ := List.cons.inj split
        obtain ⟨⟨b, first⟩, others⟩ := List.forall_mem_cons.mp succeed
        refine .inr ⟨b, first, bind_eq_error_iff.mpr (.inl ?_)⟩
        exact ih.mpr ⟨before, y, after, rfl, others, fails⟩

theorem exists_mapM_iff {ε α β : Type} {f : α → Except ε β} {xs : List α} :
    (∃ ys, xs.mapM f = .ok ys) ↔ ∀ x ∈ xs, ∃ y, f x = .ok y := by
  constructor
  · rintro ⟨ys, all⟩ x mem
    obtain ⟨y, -, here⟩ := exists_of_mapM all mem
    exact ⟨y, here⟩
  · intro each
    cases all : xs.mapM f with
    | ok ys => exact ⟨ys, rfl⟩
    | error e =>
      obtain ⟨before, x, after, rfl, -, fails⟩ := mapM_eq_error_iff.mp all
      obtain ⟨y, done⟩ := each x (by simp)
      rw [done] at fails
      cases fails

end Sitemap
