/-
Lists without repeats, in the order of first occurrence.

`distinct` keeps the first occurrence of every element.  `mem_distinct` and `nodup_distinct` say
what it keeps, `distinct_append` how it treats a list that goes on.  `distinctBy` does the same where
elements may count as the same without being equal.
-/

namespace Sitemap

variable {α : Type} [DecidableEq α]

/-- The elements of a list in the order of their first occurrence, each once. -/
def distinct : List α → List α
  | [] => []
  | a :: as => a :: (distinct as).filter (fun b => b ≠ a)

theorem mem_distinct {a : α} {as : List α} : a ∈ distinct as ↔ a ∈ as := by
  induction as with
  | nil => simp [distinct]
  | cons b as ih => by_cases h : a = b <;> simp [distinct, h, ih]

theorem nodup_distinct (as : List α) : (distinct as).Nodup := by
  induction as with
  | nil => simp [distinct]
  | cons a as ih =>
    rw [distinct, List.nodup_cons]
    exact ⟨by simp, ih.sublist List.filter_sublist⟩

theorem distinct_append (as bs : List α) :
    distinct (as ++ bs) = distinct as ++ (distinct bs).filter (fun b => b ∉ as) := by
  induction as with
  | nil => exact (List.filter_eq_self.mpr (by simp)).symm
  | cons a as ih =>
    simp only [List.cons_append, distinct, ih, List.filter_append, List.filter_filter]
    congr 2
    apply List.filter_congr
    intro b _
    by_cases h : b = a <;> simp [h]

/-- A list without repeats is kept as it is. -/
theorem distinct_of_nodup {as : List α} (h : as.Nodup) : distinct as = as := by
  induction as with
  | nil => rfl
  | cons a as ih =>
    obtain ⟨ha, has⟩ := List.nodup_cons.mp h
    rw [distinct, ih has, List.filter_eq_self.mpr]
    intro b hb
    have : b ≠ a := fun e => ha (e ▸ hb)
    simp [this]

/-- Repeats inside a part of a list make no difference. -/
theorem distinct_distinct_append (as bs : List α) :
    distinct (distinct as ++ bs) = distinct (as ++ bs) := by
  rw [distinct_append, distinct_append, distinct_of_nodup (nodup_distinct as)]
  congr 1
  exact List.filter_congr fun b _ => by rw [decide_eq_decide, mem_distinct]

/-- The elements of a list that are not the same as an earlier one, in the sense of `same`. -/
def distinctBy {α : Type} (same : α → α → Bool) : List α → List α
  | [] => []
  | a :: as => a :: (distinctBy same as).filter fun b => !same a b

/-- An element is the same as none of those that are kept before it. -/
theorem pairwise_distinctBy {α : Type} (same : α → α → Bool) (as : List α) :
    (distinctBy same as).Pairwise fun a b => same a b = false := by
  induction as with
  | nil => exact List.Pairwise.nil
  | cons a as ih =>
    rw [distinctBy, List.pairwise_cons]
    exact ⟨by simp, ih.sublist List.filter_sublist⟩

end Sitemap
