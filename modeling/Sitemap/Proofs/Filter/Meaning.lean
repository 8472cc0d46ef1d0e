/-
What a filter specification means, and that its condition means the same.

`means` reads a specification by itself: all keys hold, a key of a field is the leaf of its lookup, and
`or` asks that one of the alternatives holds that ask for anything.  A specification is vacuous when it
asks for nothing: it counts as not given, or has only `or` keys with vacuous alternatives.

Joining leaves out the groups without children, so that two things are followed at once: that the group
of a specification is without children exactly when the specification is vacuous, and when it holds.
The induction is over the specification, its entries and its alternatives: `compile_means`.

Three names are no fields, and a key of one of them asks for nothing or is refused:
`not_compile_means_negated`.
-/
import Sitemap.Filter.Compile
import Sitemap.Proofs.Filter.Joining

namespace Sitemap
namespace Filter

/-- A key with double underscores for its dots. -/
def dotted (key : String) : String :=
  String.ofList (key.toList.flatMap fun c => if c = '.' then ['_', '_'] else [c])

/-- The names that cannot be looked up as fields. -/
def reserved : List String := [selfLookup, negatedLookup, connectorLookup]

/-! ## Specifications and their meaning -/

mutual

/-- A mapping, or a value that counts as not given. -/
def isSpec : Value → Bool
  | .mapping es => areEntries es
  | v => !v.truthy

def areEntries : List (String × Value) → Bool
  | [] => true
  | (key, v) :: es => (key != orKey || areAlternatives v) && areEntries es

/-- A list of specifications, or a mapping whose entries are the alternatives. -/
def areAlternatives : Value → Bool
  | .series .list specs => areSpecs specs
  | .mapping es => areEntries es
  | _ => false

def areSpecs : List Value → Bool
  | [] => true
  | spec :: specs => isSpec spec && areSpecs specs

end

mutual

/-- The keys that are fields, with what is asked of them, in order. -/
def asked : Value → List (String × Value)
  | .mapping es => askedEntries es
  | _ => []

def askedEntries : List (String × Value) → List (String × Value)
  | [] => []
  | (key, v) :: es => (if key = orKey then askedAlternatives v else [(key, v)]) ++ askedEntries es

def askedAlternatives : Value → List (String × Value)
  | .series .list specs => askedSpecs specs
  | .mapping es => askedEntries es
  | _ => []

def askedSpecs : List Value → List (String × Value)
  | [] => []
  | spec :: specs => asked spec ++ askedSpecs specs

end

mutual

/-- Whether a specification asks for nothing. -/
def vacuous : Value → Bool
  | .mapping es => vacuousEntries es
  | v => !v.truthy

def vacuousEntries : List (String × Value) → Bool
  | [] => true
  | (key, v) :: es => (key == orKey && vacuousAlternatives v) && vacuousEntries es

def vacuousAlternatives : Value → Bool
  | .series .list specs => vacuousSpecs specs
  | .mapping es => vacuousEntries es
  | _ => false

def vacuousSpecs : List Value → Bool
  | [] => true
  | spec :: specs => vacuous spec && vacuousSpecs specs

end

section

variable (assign : String → Value → Bool)

mutual

def means : Value → Bool
  | .mapping es => allMean es
  | _ => true

def allMean : List (String × Value) → Bool
  | [] => true
  | (key, v) :: es =>
    (if key = orKey then alternativesMean v else assign (dotted key) v) && allMean es

/-- One of the alternatives that are not vacuous holds, if there are any. -/
def alternativesMean : Value → Bool
  | .series .list specs => vacuousSpecs specs || someSpecMeans specs
  | .mapping es => vacuousEntries es || someEntryMeans es
  | _ => true

def someSpecMeans : List Value → Bool
  | [] => false
  | spec :: specs => (!vacuous spec && means spec) || someSpecMeans specs

def someEntryMeans : List (String × Value) → Bool
  | [] => false
  | (key, v) :: es =>
    (if key = orKey then !vacuousAlternatives v && alternativesMean v else assign (dotted key) v)
      || someEntryMeans es

end

end

/-! ## Lookups -/

namespace Key

theorem splitLast_append (first : String) (rest : List String) :
    (splitLast first rest).1 ++ [(splitLast first rest).2] = first :: rest := by
  induction rest generalizing first with
  | nil => rfl
  | cons part rest ih => exact congrArg (first :: ·) (ih part)

theorem join_append_singleton (sep last : String) {before : List String} (some : before ≠ []) :
    Text.join sep (before ++ [last]) = Text.join sep before ++ sep ++ last := by
  induction before with
  | nil => exact absurd rfl some
  | cons s before ih =>
    cases before with
    | nil => rfl
    | cons t before =>
      show s ++ sep ++ Text.join sep (t :: before ++ [last]) = _
      rw [ih (by simp)]
      simp [Text.join, String.append_assoc]

theorem joinChars_dots (cs : List Char) :
    Text.joinChars ['_', '_'] (Text.splitChars '.' cs).1 (Text.splitChars '.' cs).2
      = cs.flatMap fun c => if c = '.' then ['_', '_'] else [c] := by
  induction cs with
  | nil => rfl
  | cons c cs ih =>
    by_cases dot : c = '.'
    · simp [Text.splitChars, dot, Text.joinChars, ih]
    · simp [Text.splitChars, dot, Text.joinChars_cons, ih]

theorem join_parts_dots (key : String) : Text.join "__" (Text.parts '.' key) = dotted key := by
  apply String.toList_inj.mp
  rw [Text.parts, Text.toList_join, dotted, String.toList_ofList, ← joinChars_dots]
  simp [Text.split, Function.comp_def]

/-- Whether or not a key ends in an operator, its dots become double underscores. -/
theorem lookup_ofText (key : String) : (ofText key).lookup = dotted key := by
  rw [← join_parts_dots]
  unfold ofText
  split
  next first rest parts =>
  split
  next before last ends =>
  have whole := splitLast_append first rest
  rw [ends] at whole
  have all : Text.parts '.' key = first :: rest := by rw [Text.parts, parts]
  rw [all]
  by_cases operated : rest ≠ [] ∧ last ∈ operators
  · rw [if_pos operated]
    have some : before ≠ [] := by
      rintro rfl
      obtain ⟨-, none⟩ := List.cons.inj whole
      exact operated.1 none.symm
    show Text.join "__" before ++ "__" ++ last = _
    rw [← whole, join_append_singleton "__" last some]
  · rw [if_neg operated]
    rfl

end Key

theorem count_dotted (cs : List Char) :
    2 * cs.count '.' ≤ (cs.flatMap fun c => if c = '.' then ['_', '_'] else [c]).count '_' := by
  induction cs with
  | nil => exact Nat.le_refl 0
  | cons c cs ih =>
    rw [List.flatMap_cons, List.count_append, List.count_cons]
    by_cases dot : c = '.'
    · subst dot
      simp only [if_true, beq_self_eq_true]
      have two : (['_', '_'] : List Char).count '_' = 2 := rfl
      omega
    · have other : (c == '.') = false := by simpa using dot
      simp only [if_neg dot, other]
      simp only [Bool.false_eq_true, if_false]
      omega

theorem dotted_of_not_mem {key : String} (h : '.' ∉ key.toList) : dotted key = key := by
  have same (cs : List Char) (h : '.' ∉ cs) :
      (cs.flatMap fun c => if c = '.' then ['_', '_'] else [c]) = cs := by
    induction cs with
    | nil => rfl
    | cons c cs ih =>
      have here : c ≠ '.' := fun e => h (by simp [e])
      rw [List.flatMap_cons, if_neg here, ih fun mem => h (List.mem_cons_of_mem _ mem)]
      rfl
  rw [dotted, same _ h, String.ofList_toList]

/-- A dot leaves two underscores, and no reserved name has two. -/
theorem dotted_not_mem_reserved {key : String} (h : key ∉ reserved) : dotted key ∉ reserved := by
  by_cases dot : '.' ∈ key.toList
  · intro mem
    have two : 2 ≤ (dotted key).toList.count '_' := by
      have count := count_dotted key.toList
      have one := List.count_pos_iff.mpr dot
      rw [dotted, String.toList_ofList]
      omega
    have few : ∀ name ∈ reserved, name.toList.count '_' < 2 := by decide
    have := few _ mem
    omega
  · rwa [dotted_of_not_mem dot]

theorem groupOf_dotted {key : String} (h : key ∉ reserved) (v : Value) :
    groupOf (Key.ofText key).lookup v = .ok (Group.single (dotted key) v) := by
  have free := dotted_not_mem_reserved h
  rw [Key.lookup_ofText]
  refine groupOf_field ?_ ?_ ?_ v
  · exact fun e => free (by rw [e]; decide)
  · exact fun e => free (by rw [e]; decide)
  · exact fun e => free (by rw [e]; decide)

/-! ## Compiling -/

/-- A group is without children exactly when `empty`, and holds when `means` does. -/
def Agrees (g : Group) (empty : Bool) (means : (String → Value → Bool) → Bool) : Prop :=
  g.children.isEmpty = empty ∧ ∀ assign, g.holds assign = means assign

theorem Agrees.asserts {g : Group} {empty : Bool} {means : (String → Value → Bool) → Bool}
    (h : Agrees g empty means) (assign : String → Value → Bool) :
    g.asserts assign = (!empty && means assign) := by
  unfold Group.asserts
  rw [h.1, h.2]

theorem agrees_single (lookup : String) (v : Value) :
    Agrees (Group.single lookup v) false fun assign => assign lookup v := by
  refine ⟨rfl, fun assign => ?_⟩
  show (false ^^ (assign lookup v && true)) = assign lookup v
  rw [Bool.and_true, Bool.false_xor]

/-- What is told of the groups of some entries: whether all are without children, and whether all of
them or any of them hold. -/
structure EntriesAgree (es : List (String × Value)) (gs : List Group) : Prop where
  empty : (gs.all fun g => g.children.isEmpty) = vacuousEntries es
  all : ∀ assign, (gs.all fun g => g.holds assign) = allMean assign es
  any : ∀ assign, (gs.any fun g => g.asserts assign) = someEntryMeans assign es

structure SpecsAgree (specs : List Value) (gs : List Group) : Prop where
  empty : (gs.all fun g => g.children.isEmpty) = vacuousSpecs specs
  any : ∀ assign, (gs.any fun g => g.asserts assign) = someSpecMeans assign specs

theorem agrees_of_not_mapping {v : Value} (other : ∀ es, v ≠ .mapping es) (spec : isSpec v = true) :
    ∃ g, compile v = .ok g ∧ Agrees g (vacuous v) fun assign => means assign v := by
  have facts : isSpec v = !v.truthy ∧ vacuous v = !v.truthy ∧ (∀ assign, means assign v = true) ∧
      compile v = if v.truthy then .error (v.calling "items") else .ok {} := by
    cases v with
    | mapping es => exact absurd rfl (other es)
    | _ => exact ⟨by simp [isSpec], by simp [vacuous], by simp [means], by simp [compile]⟩
  obtain ⟨given, empty, meaning, compiled⟩ := facts
  rw [given] at spec
  have absent : v.truthy = false := by simpa using spec
  rw [absent] at compiled
  refine ⟨{}, compiled, ?_, fun assign => ?_⟩
  · rw [empty, absent]
    rfl
  · show Group.holds assign {} = means assign v
    rw [meaning, Group.holds_of_nil rfl]

theorem EntriesAgree.cons {key : String} {v : Value} {es : List (String × Value)} {g : Group}
    {gs : List Group} (here : Agrees g (key == orKey && vacuousAlternatives v) fun assign =>
      if key = orKey then alternativesMean assign v else assign (dotted key) v)
    (rest : EntriesAgree es gs) : EntriesAgree ((key, v) :: es) (g :: gs) := by
  refine ⟨?_, fun assign => ?_, fun assign => ?_⟩
  · rw [List.all_cons, here.1, rest.empty, vacuousEntries]
  · rw [List.all_cons, here.2, rest.all, allMean]
  · rw [List.any_cons, here.asserts, rest.any, someEntryMeans]
    by_cases or : key = orKey
    · simp [or]
    · have other : (key == orKey) = false := by simpa using or
      simp [or, other]

theorem SpecsAgree.cons {spec : Value} {specs : List Value} {g : Group} {gs : List Group}
    (here : Agrees g (vacuous spec) fun assign => means assign spec)
    (rest : SpecsAgree specs gs) : SpecsAgree (spec :: specs) (g :: gs) := by
  refine ⟨?_, fun assign => ?_⟩
  · rw [List.all_cons, here.1, rest.empty, vacuousSpecs]
  · rw [List.any_cons, here.asserts, rest.any, someSpecMeans]

mutual

theorem agrees_compile : ∀ v : Value, isSpec v = true → (∀ e ∈ asked v, e.1 ∉ reserved) →
    ∃ g, compile v = .ok g ∧ Agrees g (vacuous v) fun assign => means assign v
  | .mapping es, spec, free => by
    rw [isSpec] at spec
    rw [asked] at free
    obtain ⟨gs, compiled, agree⟩ := agree_compileEntries es spec free
    refine ⟨Group.combineAll .and gs, ?_, ?_, fun assign => ?_⟩
    · rw [compile, compiled]
      rfl
    · rw [Group.isEmpty_combineAll, agree.empty, vacuous]
    · show Group.holds assign _ = means assign (.mapping es)
      rw [Group.holds_combineAll_and, agree.all, means]
  | .null, spec, _ | .bool _, spec, _ | .int _, spec, _ | .text _, spec, _ | .literal _ _, spec, _
  | .series _ _, spec, _ | .object _, spec, _ => agrees_of_not_mapping (by simp) spec

theorem agree_compileEntries : ∀ es : List (String × Value), areEntries es = true →
    (∀ e ∈ askedEntries es, e.1 ∉ reserved) → ∃ gs, compileEntries es = .ok gs ∧ EntriesAgree es gs
  | [], _, _ => ⟨[], rfl, rfl, fun _ => rfl, fun _ => rfl⟩
  | (key, v) :: es, spec, free => by
    rw [areEntries] at spec
    obtain ⟨first, rest⟩ := Bool.and_eq_true_iff.mp spec
    rw [askedEntries] at free
    obtain ⟨here, later⟩ := List.forall_mem_append.mp free
    obtain ⟨gs, compiled, agree⟩ := agree_compileEntries es rest later
    rw [compileEntries, compiled]
    by_cases or : key = orKey
    · rw [if_pos or] at here
      have alternatives : areAlternatives v = true := by simpa [or] using first
      obtain ⟨g, made, agrees⟩ := agrees_compileAlternatives v alternatives here
      rw [if_pos or, made]
      refine ⟨g :: gs, rfl, agree.cons ?_⟩
      simpa [or] using agrees
    · rw [if_neg or] at here
      rw [if_neg or, groupOf_dotted (here _ List.mem_cons_self)]
      refine ⟨Group.single (dotted key) v :: gs, rfl, agree.cons ?_⟩
      have other : (key == orKey) = false := by simpa using or
      simpa [or, other] using agrees_single (dotted key) v

theorem agrees_compileAlternatives : ∀ v : Value, areAlternatives v = true →
    (∀ e ∈ askedAlternatives v, e.1 ∉ reserved) →
    ∃ g, compileAlternatives v = .ok g ∧
      Agrees g (vacuousAlternatives v) fun assign => alternativesMean assign v
  | .series .list specs, spec, free => by
    rw [areAlternatives] at spec
    rw [askedAlternatives] at free
    obtain ⟨gs, compiled, agree⟩ := agree_compileSpecs specs spec free
    refine ⟨Group.combineAll .or gs, ?_, ?_, fun assign => ?_⟩
    · rw [compileAlternatives, compiled]
      rfl
    · rw [Group.isEmpty_combineAll, agree.empty, vacuousAlternatives]
    · show Group.holds assign _ = alternativesMean assign (.series .list specs)
      rw [Group.holds_combineAll_or, agree.empty, agree.any, alternativesMean]
  | .mapping es, spec, free => by
    rw [areAlternatives] at spec
    rw [askedAlternatives] at free
    obtain ⟨gs, compiled, agree⟩ := agree_compileEntries es spec free
    refine ⟨Group.combineAll .or gs, ?_, ?_, fun assign => ?_⟩
    · rw [compileAlternatives, compiled]
      rfl
    · rw [Group.isEmpty_combineAll, agree.empty, vacuousAlternatives]
    · show Group.holds assign _ = alternativesMean assign (.mapping es)
      rw [Group.holds_combineAll_or, agree.empty, agree.any, alternativesMean]
  | .null, spec, _ | .bool _, spec, _ | .int _, spec, _ | .text _, spec, _ | .literal _ _, spec, _
  | .series .tuple _, spec, _ | .series .related _, spec, _ | .object _, spec, _ => by
    simp [areAlternatives] at spec

theorem agree_compileSpecs : ∀ specs : List Value, areSpecs specs = true →
    (∀ e ∈ askedSpecs specs, e.1 ∉ reserved) →
    ∃ gs, compileSpecs specs = .ok gs ∧ SpecsAgree specs gs
  | [], _, _ => ⟨[], rfl, rfl, fun _ => rfl⟩
  | spec :: specs, given, free => by
    rw [areSpecs] at given
    obtain ⟨first, rest⟩ := Bool.and_eq_true_iff.mp given
    rw [askedSpecs] at free
    obtain ⟨here, later⟩ := List.forall_mem_append.mp free
    obtain ⟨g, made, agrees⟩ := agrees_compile spec first here
    obtain ⟨gs, compiled, agree⟩ := agree_compileSpecs specs rest later
    rw [compileSpecs, made, compiled]
    exact ⟨g :: gs, rfl, agree.cons agrees⟩

end

/-- The condition of a specification holds when the specification does, unless a field goes by a
reserved name. -/
theorem compile_means {v : Value} (spec : isSpec v = true)
    (free : ∀ e ∈ asked v, e.1 ∉ reserved) :
    ∃ g, compile v = .ok g ∧ ∀ assign, g.holds assign = means assign v := by
  obtain ⟨g, compiled, -, meaning⟩ := agrees_compile v spec free
  exact ⟨g, compiled, meaning⟩

/-- Alternatives of which one has alternatives itself, and two ask for nothing. -/
def nested : Value := .mapping [
  ("or", .list [
    .mapping [("a", .int 1), ("or", .mapping [("b.isnull", .bool true), ("c.d", .int 2)])],
    .null, .mapping [("or", .list [])]]),
  ("e", .int 3)]

theorem compile_means_nested :
    isSpec nested = true ∧ (∀ e ∈ asked nested, e.1 ∉ reserved) ∧
      ∃ g, compile nested = .ok g ∧ ∀ assign, g.holds assign =
        ((assign "a" (.int 1) && (assign "b__isnull" (.bool true) || assign "c__d" (.int 2)))
          && assign "e" (.int 3)) := by
  have spec : isSpec nested = true := by decide
  have free : ∀ e ∈ asked nested, e.1 ∉ reserved := by decide
  obtain ⟨g, compiled, meaning⟩ := compile_means spec free
  refine ⟨spec, free, g, compiled, fun assign => ?_⟩
  have fields : dotted "a" = "a" ∧ dotted "b.isnull" = "b__isnull" ∧ dotted "c.d" = "c__d" ∧
      dotted "e" = "e" := by decide
  obtain ⟨a, b, c, e⟩ := fields
  rw [meaning]
  simp [nested, means, allMean, alternativesMean, someSpecMeans, someEntryMeans, vacuousSpecs,
    vacuous, vacuousEntries, vacuousAlternatives, Value.truthy, orKey, a, b, c, e]

/-- A field by the name of `_negated` is asked for, and no condition comes of it. -/
theorem not_compile_means_negated :
    isSpec (.mapping [("_negated", .bool true)]) = true ∧
      ¬∃ g, compile (.mapping [("_negated", .bool true)]) = .ok g ∧
        ∀ assign, g.holds assign = means assign (.mapping [("_negated", .bool true)]) := by
  refine ⟨rfl, ?_⟩
  rintro ⟨g, compiled, meaning⟩
  have dropped : compile (.mapping [("_negated", .bool true)])
      = .ok { negated := .bool true } := rfl
  obtain rfl : ({ negated := .bool true } : Group) = g :=
    Except.ok.inj (dropped.symm.trans compiled)
  have holds := meaning fun _ _ => false
  rw [Group.holds_of_nil rfl] at holds
  cases holds

end Filter
end Sitemap
