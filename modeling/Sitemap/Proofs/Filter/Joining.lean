/-
Joined groups.

What a connector asks of a list of conditions is one function, `Connector.joined`, which takes appended
lists apart by the operation of the connector.  A group that is merged into another means by its
children what it means by itself, so that joining two groups that have children joins what they mean,
and joining any number of them does: `holds_combineAll_and`, `holds_combineAll_or`.

A group without children holds and is left out of what it is joined to.  `Group.asserts` is what is
left of the meaning of a group when that is set aside.
-/
import Sitemap.Filter.Condition

namespace Sitemap
namespace Filter

variable {assign : String → Value → Bool}

namespace Connector

/-- Whether conditions that a connector joins hold. -/
def joined (assign : String → Value → Bool) : Connector → List Condition → Bool
  | .and => allHold assign
  | .or => someHold assign
  | .xor => oddHold assign

def op : Connector → Bool → Bool → Bool
  | .and, a, b => a && b
  | .or, a, b => a || b
  | .xor, a, b => a ^^ b

theorem joined_append (c : Connector) (as bs : List Condition) :
    c.joined assign (as ++ bs) = c.op (c.joined assign as) (c.joined assign bs) := by
  induction as with
  | nil => cases c <;> simp [joined, op, allHold, someHold, oddHold]
  | cons a as ih =>
    cases c with
    | and =>
      show (a.holds assign && allHold assign (as ++ bs)) = _
      rw [show allHold assign (as ++ bs) = _ from ih]
      exact (Bool.and_assoc _ _ _).symm
    | or =>
      show (a.holds assign || someHold assign (as ++ bs)) = _
      rw [show someHold assign (as ++ bs) = _ from ih]
      exact (Bool.or_assoc _ _ _).symm
    | xor =>
      show (a.holds assign ^^ oddHold assign (as ++ bs)) = _
      rw [show oddHold assign (as ++ bs) = _ from ih]
      exact (Bool.xor_assoc _ _ _).symm

theorem joined_singleton (c : Connector) (a : Condition) :
    c.joined assign [a] = a.holds assign := by
  cases c <;> simp [joined, allHold, someHold, oddHold]

end Connector

namespace Group

variable {c : Connector} {g h : Group}

theorem holds_of_nil (empty : g.children = []) : g.holds assign = true := by
  unfold holds toCondition
  rw [empty]
  simp [Condition.holds]

theorem holds_of_ne_nil (some : g.children ≠ []) :
    g.holds assign = (g.negated.truthy ^^ g.connector.joined assign g.children) := by
  obtain ⟨connector, negated, children⟩ := g
  obtain ⟨a, as, rfl⟩ := List.exists_cons_of_ne_nil some
  cases connector <;> rfl

/-- A group that is merged means by its children what it means by itself. -/
theorem joined_contribution (some : g.children ≠ []) :
    c.joined assign (g.contribution c) = g.holds assign := by
  unfold contribution
  by_cases merges : g.mergesInto c = true
  · obtain ⟨plain, fits⟩ := Bool.and_eq_true_iff.mp merges
    have plain : g.negated.truthy = false := by simpa using plain
    rw [if_pos merges, holds_of_ne_nil some, plain, Bool.false_xor]
    rcases Bool.or_eq_true_iff.mp fits with same | single
    · rw [show g.connector = c by simpa using same]
    · obtain ⟨a, only⟩ := List.length_eq_one_iff.mp (show g.children.length = 1 by simpa using single)
      rw [only, Connector.joined_singleton, Connector.joined_singleton]
  · rw [if_neg merges, Connector.joined_singleton]
    rfl

theorem contribution_ne_nil (some : g.children ≠ []) : g.contribution c ≠ [] := by
  unfold contribution
  split
  · exact some
  · exact List.cons_ne_nil _ _

theorem isEmpty_combine :
    (combine c g h).children.isEmpty = (g.children.isEmpty && h.children.isEmpty) := by
  unfold combine
  by_cases left : g.children.isEmpty = true
  · rw [if_pos left, left, Bool.true_and]
  · rw [if_neg left]
    have left' : g.children.isEmpty = false := by simpa using left
    rw [left', Bool.false_and]
    by_cases right : h.children.isEmpty = true
    · rw [if_pos right, left']
    · rw [if_neg right]
      have some : g.children ≠ [] := by simpa using left
      simpa using fun e => absurd e (contribution_ne_nil some)

/-- A group without children is left out, and two others are joined. -/
theorem holds_combine :
    (combine c g h).holds assign =
      if g.children.isEmpty then h.holds assign
      else if h.children.isEmpty then g.holds assign
      else c.op (g.holds assign) (h.holds assign) := by
  unfold combine
  by_cases left : g.children.isEmpty = true
  · rw [if_pos left, if_pos left]
  · rw [if_neg left, if_neg left]
    by_cases right : h.children.isEmpty = true
    · rw [if_pos right, if_pos right]
    · rw [if_neg right, if_neg right]
      have some : g.children ≠ [] := by simpa using left
      have some' : h.children ≠ [] := by simpa using right
      rw [holds_of_ne_nil (fun e => contribution_ne_nil some (List.append_eq_nil_iff.mp e).1)]
      show (false ^^ c.joined assign (g.contribution c ++ h.contribution c)) = _
      rw [Bool.false_xor, Connector.joined_append, joined_contribution some,
        joined_contribution some']

/-- Whether a group asks for anything, and that holds. -/
def asserts (assign : String → Value → Bool) (g : Group) : Bool :=
  !g.children.isEmpty && g.holds assign

theorem holds_eq (g : Group) : g.holds assign = (g.children.isEmpty || g.asserts assign) := by
  unfold asserts
  by_cases empty : g.children = []
  · rw [holds_of_nil empty, empty]
    rfl
  · have some : g.children.isEmpty = false := by simpa using empty
    rw [some]
    rfl

theorem holds_combine_and :
    (combine .and g h).holds assign = (g.holds assign && h.holds assign) := by
  rw [holds_combine, holds_eq g, holds_eq h]
  cases g.children.isEmpty <;> cases h.children.isEmpty <;> simp [Connector.op]

theorem asserts_combine_or :
    (combine .or g h).asserts assign = (g.asserts assign || h.asserts assign) := by
  unfold asserts
  rw [isEmpty_combine, holds_combine]
  cases g.children.isEmpty <;> cases h.children.isEmpty <;> simp [Connector.op]

theorem isEmpty_foldl_combine (gs : List Group) :
    (gs.foldl (combine c) g).children.isEmpty
      = (g.children.isEmpty && gs.all fun h => h.children.isEmpty) := by
  induction gs generalizing g with
  | nil => exact (Bool.and_true _).symm
  | cons h gs ih =>
    rw [List.foldl_cons, ih, isEmpty_combine, List.all_cons, Bool.and_assoc]

theorem isEmpty_combineAll (gs : List Group) :
    (combineAll c gs).children.isEmpty = gs.all fun h => h.children.isEmpty :=
  isEmpty_foldl_combine gs

theorem holds_combineAll_and (gs : List Group) :
    (combineAll .and gs).holds assign = gs.all fun h => h.holds assign := by
  have fold (g : Group) : (gs.foldl (combine .and) g).holds assign
      = (g.holds assign && gs.all fun h => h.holds assign) := by
    induction gs generalizing g with
    | nil => exact (Bool.and_true _).symm
    | cons h gs ih => rw [List.foldl_cons, ih, holds_combine_and, List.all_cons, Bool.and_assoc]
  rw [combineAll, fold, holds_of_nil rfl, Bool.true_and]

theorem holds_combineAll_or (gs : List Group) :
    (combineAll .or gs).holds assign
      = ((gs.all fun h => h.children.isEmpty) || gs.any fun h => h.asserts assign) := by
  have fold (g : Group) : (gs.foldl (combine .or) g).asserts assign
      = (g.asserts assign || gs.any fun h => h.asserts assign) := by
    induction gs generalizing g with
    | nil => exact (Bool.or_false _).symm
    | cons h gs ih => rw [List.foldl_cons, ih, asserts_combine_or, List.any_cons, Bool.or_assoc]
  rw [holds_eq, isEmpty_combineAll, combineAll, fold]
  rfl

end Group

end Filter
end Sitemap
