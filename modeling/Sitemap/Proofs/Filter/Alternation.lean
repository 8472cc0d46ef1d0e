/-
The shape of the condition of a specification.

No group is negated, a group within another joins two or more conditions by the connector that the
other does not have, and a group by itself that has a single condition is a leaf under the usual
connector.  Read from left to right, the leaves are the fields that the specification asks for, in
its order: `compile_alternates`.

Joining keeps both.  A group that is merged hands over conditions that have their place under the
same connector, or a leaf, which has its place under any; a group that is not merged has the other
connector and two conditions at least.

The names that are no fields are excepted, as a group without conditions may come of them that is
negated: `not_compile_alternates_negated`.
-/
import Sitemap.Proofs.Filter.Meaning

namespace Sitemap
namespace Filter

/-- The two connectors that alternate. -/
inductive Connector.Opposite : Connector → Connector → Prop where
  | andOr : Opposite .and .or
  | orAnd : Opposite .or .and

/-- A condition that has its place in a group with the connector `c`. -/
inductive Condition.Alternates : Connector → Condition → Prop where
  | leaf {c : Connector} (lookup : String) (value : Value) : Alternates c (.leaf lookup value)
  | group {c d : Connector} {children : List Condition} (opposite : c.Opposite d)
      (several : 2 ≤ children.length) (each : ∀ a ∈ children, Alternates d a) :
      Alternates c (.group d (.bool false) children)

structure Group.Alternates (g : Group) : Prop where
  plain : g.negated = .bool false
  connector : g.connector = .and ∨ g.connector = .or
  each : ∀ a ∈ g.children, a.Alternates g.connector
  single : ∀ a, g.children = [a] → g.connector = .and ∧ ∃ lookup value, a = .leaf lookup value

mutual

/-- The leaves of a condition, from left to right. -/
def Condition.leaves : Condition → List (String × Value)
  | .leaf lookup value => [(lookup, value)]
  | .group _ _ children => leavesOf children

def leavesOf : List Condition → List (String × Value)
  | [] => []
  | c :: cs => c.leaves ++ leavesOf cs

end

def Group.leaves (g : Group) : List (String × Value) := leavesOf g.children

theorem leavesOf_append (as bs : List Condition) :
    leavesOf (as ++ bs) = leavesOf as ++ leavesOf bs := by
  induction as with
  | nil => rfl
  | cons a as ih => rw [List.cons_append, leavesOf, leavesOf, ih, List.append_assoc]

namespace Connector

theorem opposite_of_ne {c d : Connector} (hc : c = .and ∨ c = .or) (hd : d = .and ∨ d = .or)
    (ne : d ≠ c) : c.Opposite d := by
  rcases hc with rfl | rfl <;> rcases hd with rfl | rfl
  · exact absurd rfl ne
  · exact .andOr
  · exact .orAnd
  · exact absurd rfl ne

end Connector

/-! ## Joining -/

namespace Group

variable {c : Connector} {g h : Group}

theorem alternates_nil : Group.Alternates {} where
  plain := rfl
  connector := .inl rfl
  each := fun _ mem => nomatch mem
  single := fun _ only => nomatch only

theorem alternates_single (lookup : String) (v : Value) : (single lookup v).Alternates where
  plain := rfl
  connector := .inl rfl
  each := fun a mem => by
    rw [List.mem_singleton.mp mem]
    exact .leaf lookup v
  single := fun _ only => ⟨rfl, lookup, v, (List.cons.inj only).1.symm⟩

theorem leaves_contribution : leavesOf (g.contribution c) = g.leaves := by
  unfold contribution
  by_cases merges : g.mergesInto c = true
  · rw [if_pos merges]
    rfl
  · rw [if_neg merges, leavesOf, leavesOf, List.append_nil]
    rfl

/-- What a group adds has its place under the connector that it is joined by. -/
theorem Alternates.contribution (alternates : g.Alternates) (plain : c = .and ∨ c = .or)
    (some : g.children ≠ []) : ∀ a ∈ g.contribution c, a.Alternates c := by
  intro a mem
  unfold Group.contribution at mem
  by_cases same : g.connector = c
  · -- The children stay under the connector that they had.
    have merges : g.mergesInto c = true := by simp [mergesInto, alternates.plain, same, Value.truthy]
    rw [if_pos merges] at mem
    exact same ▸ alternates.each a mem
  · rcases Nat.lt_or_ge 1 g.children.length with several | few
    · have stays : ¬g.mergesInto c = true := by
        simp [mergesInto, same, Nat.ne_of_gt several]
      rw [if_neg stays] at mem
      rw [List.mem_singleton.mp mem, toCondition, alternates.plain]
      exact .group (Connector.opposite_of_ne plain alternates.connector same) several
        alternates.each
    · -- A child by itself is a leaf, and that fits under both connectors.
      obtain ⟨b, only⟩ := List.length_eq_one_iff.mp
        (Nat.le_antisymm few (List.length_pos_iff.mpr some))
      have merges : g.mergesInto c = true := by
        simp [mergesInto, alternates.plain, only, Value.truthy]
      obtain ⟨-, lookup, value, rfl⟩ := alternates.single b only
      rw [if_pos merges, only] at mem
      rw [List.mem_singleton.mp mem]
      exact .leaf lookup value

theorem combine_of_nil (empty : g.children = []) : combine c g h = h :=
  if_pos (List.isEmpty_iff.mpr empty)

theorem combine_nil_of (some : g.children ≠ []) (empty : h.children = []) : combine c g h = g := by
  rw [combine, if_neg (by simpa using some), if_pos (List.isEmpty_iff.mpr empty)]

theorem combine_of_ne_nil (left : g.children ≠ []) (right : h.children ≠ []) :
    combine c g h = { connector := c, children := g.contribution c ++ h.contribution c } := by
  rw [combine, if_neg (by simpa using left), if_neg (by simpa using right)]

theorem Alternates.combine (hg : g.Alternates) (hh : h.Alternates) (plain : c = .and ∨ c = .or) :
    (combine c g h).Alternates := by
  by_cases left : g.children = []
  · rwa [combine_of_nil left]
  by_cases right : h.children = []
  · rwa [combine_nil_of left right]
  rw [combine_of_ne_nil left right]
  refine ⟨rfl, plain, fun a mem => ?_, fun a only => ?_⟩
  · rcases List.mem_append.mp mem with mem | mem
    · exact hg.contribution plain left a mem
    · exact hh.contribution plain right a mem
  · -- Each side adds a condition, so that there are two at least.
    have count := congrArg List.length only
    have one := List.length_pos_iff.mpr (contribution_ne_nil (c := c) left)
    have other := List.length_pos_iff.mpr (contribution_ne_nil (c := c) right)
    rw [List.length_append, List.length_singleton] at count
    omega

theorem leaves_of_nil (empty : g.children = []) : g.leaves = [] := by
  rw [leaves, empty]
  rfl

theorem leaves_combine : (combine c g h).leaves = g.leaves ++ h.leaves := by
  by_cases left : g.children = []
  · rw [combine_of_nil left, leaves_of_nil left, List.nil_append]
  by_cases right : h.children = []
  · rw [combine_nil_of left right, leaves_of_nil right, List.append_nil]
  rw [combine_of_ne_nil left right]
  show leavesOf (g.contribution c ++ h.contribution c) = _
  rw [leavesOf_append, leaves_contribution, leaves_contribution]

theorem alternates_combineAll (plain : c = .and ∨ c = .or) (gs : List Group)
    (each : ∀ g ∈ gs, g.Alternates) : (combineAll c gs).Alternates := by
  have fold (gs : List Group) (each : ∀ g ∈ gs, g.Alternates) (g : Group) (hg : g.Alternates) :
      (gs.foldl (combine c) g).Alternates := by
    induction gs generalizing g with
    | nil => exact hg
    | cons h gs ih =>
      obtain ⟨first, rest⟩ := List.forall_mem_cons.mp each
      exact ih rest _ (hg.combine first plain)
  exact fold gs each {} alternates_nil

theorem leaves_combineAll (gs : List Group) :
    (combineAll c gs).leaves = gs.flatMap Group.leaves := by
  have fold (g : Group) :
      (gs.foldl (combine c) g).leaves = g.leaves ++ gs.flatMap Group.leaves := by
    induction gs generalizing g with
    | nil => exact (List.append_nil _).symm
    | cons h gs ih =>
      rw [List.foldl_cons, ih, leaves_combine, List.flatMap_cons, List.append_assoc]
  exact fold {}

end Group

/-! ## Compiling -/

/-- The leaf that is asked of a field. -/
def leafOf (e : String × Value) : String × Value := (dotted e.1, e.2)

/-- A group in alternating form whose leaves are these fields. -/
structure Keeps (fields : List (String × Value)) (g : Group) : Prop where
  alternates : g.Alternates
  leaves : g.leaves = fields.map leafOf

structure AllKeep (fields : List (String × Value)) (gs : List Group) : Prop where
  alternate : ∀ g ∈ gs, g.Alternates
  leaves : gs.flatMap Group.leaves = fields.map leafOf

theorem AllKeep.nil : AllKeep [] [] := ⟨List.forall_mem_nil _, rfl⟩

theorem AllKeep.cons {first rest : List (String × Value)} {g : Group} {gs : List Group}
    (here : Keeps first g) (later : AllKeep rest gs) : AllKeep (first ++ rest) (g :: gs) where
  alternate := List.forall_mem_cons.mpr ⟨here.alternates, later.alternate⟩
  leaves := by rw [List.flatMap_cons, here.leaves, later.leaves, List.map_append]

theorem AllKeep.combineAll {fields : List (String × Value)} {gs : List Group} {c : Connector}
    (keep : AllKeep fields gs) (plain : c = .and ∨ c = .or) :
    Keeps fields (Group.combineAll c gs) where
  alternates := Group.alternates_combineAll plain gs keep.alternate
  leaves := (Group.leaves_combineAll gs).trans keep.leaves

theorem keeps_of_not_mapping {v : Value} (other : ∀ es, v ≠ .mapping es) (spec : isSpec v = true) :
    ∃ g, compile v = .ok g ∧ Keeps (asked v) g := by
  have facts : isSpec v = !v.truthy ∧ asked v = [] ∧
      compile v = if v.truthy then .error (v.calling "items") else .ok {} := by
    cases v with
    | mapping es => exact absurd rfl (other es)
    | _ => exact ⟨by simp [isSpec], by simp [asked], by simp [compile]⟩
  obtain ⟨given, none, compiled⟩ := facts
  have absent : v.truthy = false := by simpa [given] using spec
  rw [absent] at compiled
  rw [none]
  exact ⟨{}, compiled, Group.alternates_nil, rfl⟩

mutual

theorem keeps_compile : ∀ v : Value, isSpec v = true → (∀ e ∈ asked v, e.1 ∉ reserved) →
    ∃ g, compile v = .ok g ∧ Keeps (asked v) g
  | .mapping es, spec, free => by
    rw [isSpec] at spec
    rw [asked] at free ⊢
    obtain ⟨gs, compiled, keep⟩ := keep_compileEntries es spec free
    refine ⟨Group.combineAll .and gs, ?_, keep.combineAll (.inl rfl)⟩
    rw [compile, compiled]
    rfl
  | .null, spec, _ | .bool _, spec, _ | .int _, spec, _ | .text _, spec, _ | .literal _ _, spec, _
  | .series _ _, spec, _ | .object _, spec, _ => keeps_of_not_mapping (by simp) spec

theorem keep_compileEntries : ∀ es : List (String × Value), areEntries es = true →
    (∀ e ∈ askedEntries es, e.1 ∉ reserved) →
    ∃ gs, compileEntries es = .ok gs ∧ AllKeep (askedEntries es) gs
  | [], _, _ => ⟨[], rfl, .nil⟩
  | (key, v) :: es, spec, free => by
    rw [areEntries] at spec
    obtain ⟨first, rest⟩ := Bool.and_eq_true_iff.mp spec
    rw [askedEntries] at free ⊢
    obtain ⟨here, later⟩ := List.forall_mem_append.mp free
    obtain ⟨gs, compiled, keep⟩ := keep_compileEntries es rest later
    rw [compileEntries, compiled]
    by_cases or : key = orKey
    · rw [if_pos or] at here
      have alternatives : areAlternatives v = true := by simpa [or] using first
      obtain ⟨g, made, keeps⟩ := keeps_compileAlternatives v alternatives here
      rw [if_pos or, if_pos or, made]
      exact ⟨g :: gs, rfl, keep.cons keeps⟩
    · rw [if_neg or] at here
      rw [if_neg or, if_neg or, groupOf_dotted (here _ List.mem_cons_self)]
      exact ⟨_, rfl, keep.cons ⟨Group.alternates_single (dotted key) v, rfl⟩⟩

theorem keeps_compileAlternatives : ∀ v : Value, areAlternatives v = true →
    (∀ e ∈ askedAlternatives v, e.1 ∉ reserved) →
    ∃ g, compileAlternatives v = .ok g ∧ Keeps (askedAlternatives v) g
  | .series .list specs, spec, free => by
    rw [areAlternatives] at spec
    rw [askedAlternatives] at free ⊢
    obtain ⟨gs, compiled, keep⟩ := keep_compileSpecs specs spec free
    refine ⟨Group.combineAll .or gs, ?_, keep.combineAll (.inr rfl)⟩
    rw [compileAlternatives, compiled]
    rfl
  | .mapping es, spec, free => by
    rw [areAlternatives] at spec
    rw [askedAlternatives] at free ⊢
    obtain ⟨gs, compiled, keep⟩ := keep_compileEntries es spec free
    refine ⟨Group.combineAll .or gs, ?_, keep.combineAll (.inr rfl)⟩
    rw [compileAlternatives, compiled]
    rfl
  | .null, spec, _ | .bool _, spec, _ | .int _, spec, _ | .text _, spec, _ | .literal _ _, spec, _
  | .series .tuple _, spec, _ | .series .related _, spec, _ | .object _, spec, _ => by
    simp [areAlternatives] at spec

theorem keep_compileSpecs : ∀ specs : List Value, areSpecs specs = true →
    (∀ e ∈ askedSpecs specs, e.1 ∉ reserved) →
    ∃ gs, compileSpecs specs = .ok gs ∧ AllKeep (askedSpecs specs) gs
  | [], _, _ => ⟨[], rfl, .nil⟩
  | spec :: specs, given, free => by
    rw [areSpecs] at given
    obtain ⟨first, rest⟩ := Bool.and_eq_true_iff.mp given
    rw [askedSpecs] at free ⊢
    obtain ⟨here, later⟩ := List.forall_mem_append.mp free
    obtain ⟨g, made, keeps⟩ := keeps_compile spec first here
    obtain ⟨gs, compiled, keep⟩ := keep_compileSpecs specs rest later
    rw [compileSpecs, made, compiled]
    exact ⟨g :: gs, rfl, keep.cons keeps⟩

end

/-- The condition of a specification is in alternating form, and its leaves are the fields that are
asked for, unless a field goes by a reserved name. -/
theorem compile_alternates {v : Value} (spec : isSpec v = true)
    (free : ∀ e ∈ asked v, e.1 ∉ reserved) :
    ∃ g, compile v = .ok g ∧ g.Alternates ∧
      g.leaves = (asked v).map fun e => (dotted e.1, e.2) := by
  obtain ⟨g, compiled, alternates, leaves⟩ := keeps_compile v spec free
  exact ⟨g, compiled, alternates, leaves⟩

theorem compile_alternates_nested :
    isSpec nested = true ∧ (∀ e ∈ asked nested, e.1 ∉ reserved) ∧
      ∃ g, compile nested = .ok g ∧ g.Alternates ∧ g.leaves =
        [("a", .int 1), ("b__isnull", .bool true), ("c__d", .int 2), ("e", .int 3)] := by
  have spec : isSpec nested = true := by decide
  have free : ∀ e ∈ asked nested, e.1 ∉ reserved := by decide
  obtain ⟨g, compiled, alternates, leaves⟩ := compile_alternates spec free
  exact ⟨spec, free, g, compiled, alternates, leaves.trans rfl⟩

/-- A field by the name of `_negated` leaves no leaf. -/
theorem not_compile_alternates_negated :
    isSpec (.mapping [("_negated", .bool true)]) = true ∧
      ¬∃ g, compile (.mapping [("_negated", .bool true)]) = .ok g ∧ g.Alternates ∧
        g.leaves = (asked (.mapping [("_negated", .bool true)])).map
          fun e => (dotted e.1, e.2) := by
  refine ⟨rfl, ?_⟩
  rintro ⟨g, compiled, alternates, -⟩
  have negated : compile (.mapping [("_negated", .bool true)])
      = .ok { negated := .bool true } := rfl
  obtain rfl : ({ negated := .bool true } : Group) = g :=
    Except.ok.inj (negated.symm.trans compiled)
  have plain := alternates.plain
  cases plain

end Filter
end Sitemap
