/-
Which pages the filters of a page query keep.

The filters are a specification with up to three entries.  Written as a mapping they are compiled as
any other specification is, so that the meaning of specifications tells what they mean:
`compile_of_written`.  A page is kept when it is not marked as left out, is the one asked for, and is
published, as far as each of these is asked: `kept_of_build`.

The names of the fields come from the settings.  They must not run into each other as keys, and the
fields that are looked up by themselves must not go by a reserved name:
`not_kept_of_build_negated`.
-/
import Sitemap.PageQuery
import Sitemap.Proofs.Filter.Meaning
import Sitemap.Proofs.Outcome

namespace Sitemap
namespace Filter

/-! ## Specifications as mappings -/

/-- The entry of a mapping that asks the same, with a text for its key. -/
inductive Ask.Written : Ask → String × Value → Prop where
  | one (key : String) (v : Value) : Written (.one (.text key) v) (key, v)
  | oneOf (alternatives : List (String × Value)) :
    Written (.oneOf (.text orKey) (alternatives.map fun e => (.text e.1, e.2)))
      (orKey, .list (alternatives.map fun e => .mapping [e]))

/-- The entries of the mapping that a specification is. -/
def Spec.Written (spec : Spec) (es : List (String × Value)) : Prop :=
  List.Forall₂ Ask.Written spec es

/-- The group of one entry of a mapping. -/
def compileEntry (key : String) (v : Value) : Except ShapeFault Group :=
  if key = orKey then compileAlternatives v else groupOf (Key.ofText key).lookup v

theorem compileEntries_cons (e : String × Value) (es : List (String × Value)) :
    compileEntries (e :: es) = do
      let g ← compileEntry e.1 e.2
      let gs ← compileEntries es
      return g :: gs := by
  obtain ⟨key, v⟩ := e
  rw [compileEntries]
  unfold compileEntry
  split <;> rfl

theorem compileEntry_text (key : String) (v : Value) :
    (if Value.text key = .text orKey then compileAlternatives v else compileClause (.text key) v)
      = compileEntry key v := by
  unfold compileEntry
  by_cases or : key = orKey
  · rw [if_pos or, if_pos (congrArg Value.text or)]
  · rw [if_neg or, if_neg fun e => or (Value.text.inj e)]
    rfl

theorem compile_singleton (e : String × Value) : compile (.mapping [e]) = compileEntry e.1 e.2 := by
  rw [compile, compileEntries_cons]
  cases compileEntry e.1 e.2 <;> rfl

theorem compile_of_ask {a : Ask} {e : String × Value} (h : a.Written e) :
    a.compile = compileEntry e.1 e.2 := by
  cases h with
  | one key v => exact compileEntry_text key v
  | oneOf alternatives =>
    have each : (alternatives.map fun e => ((.text e.1, e.2) : Clause)).mapM (fun c =>
        if c.1 = .text orKey then compileAlternatives c.2 else compileClause c.1 c.2)
          = compileSpecs (alternatives.map fun e => .mapping [e]) := by
      induction alternatives with
      | nil => rfl
      | cons e alternatives ih =>
        rw [List.map_cons, List.map_cons, List.mapM_cons, ih, compileSpecs, compile_singleton]
        rw [compileEntry_text]
    show (_ >>= fun groups => Except.ok (Group.combineAll .or groups)) = _
    rw [each]
    show _ = compileAlternatives (.list _)
    rw [compileAlternatives]
    cases compileSpecs (alternatives.map fun e => .mapping [e]) <;> rfl

theorem compile_of_written {spec : Spec} {es : List (String × Value)} (h : spec.Written es) :
    spec.compile = compile (.mapping es) := by
  have each : spec.mapM Ask.compile = compileEntries es := by
    induction h with
    | nil => rfl
    | cons here _ ih => rw [List.mapM_cons, compileEntries_cons, compile_of_ask here, ih]
  unfold Spec.compile
  rw [each, compile]
  cases compileEntries es <;> rfl

theorem Ask.Written.key_eq {a : Ask} {e : String × Value} (h : a.Written e) :
    a.key = .text e.1 := by
  cases h <;> rfl

/-- A key of its own goes to the end. -/
theorem Spec.Written.put {spec : Spec} {es : List (String × Value)} {key : String} {v : Value}
    (h : spec.Written es) (new : ∀ e ∈ es, e.1 ≠ key) :
    (Spec.put (.one (.text key) v) spec).Written (es ++ [(key, v)]) := by
  induction h with
  | nil => exact .cons (.one key v) .nil
  | cons here _ ih =>
    obtain ⟨other, others⟩ := List.forall_mem_cons.mp new
    have ne : ¬Value.text _ = (Ask.one (.text key) v).key := fun e => other (Value.text.inj e)
    rw [Spec.put, here.key_eq, if_neg ne]
    exact .cons here (ih others)

/-! ## Entries, one after another -/

theorem areEntries_append (as bs : List (String × Value)) :
    areEntries (as ++ bs) = (areEntries as && areEntries bs) := by
  induction as with
  | nil => rfl
  | cons a as ih =>
    obtain ⟨key, v⟩ := a
    rw [List.cons_append, areEntries, areEntries, ih, Bool.and_assoc]

theorem askedEntries_append (as bs : List (String × Value)) :
    askedEntries (as ++ bs) = askedEntries as ++ askedEntries bs := by
  induction as with
  | nil => rfl
  | cons a as ih =>
    obtain ⟨key, v⟩ := a
    rw [List.cons_append, askedEntries, askedEntries, ih, List.append_assoc]

theorem allMean_append (assign : String → Value → Bool) (as bs : List (String × Value)) :
    allMean assign (as ++ bs) = (allMean assign as && allMean assign bs) := by
  induction as with
  | nil => rfl
  | cons a as ih =>
    obtain ⟨key, v⟩ := a
    rw [List.cons_append, allMean, allMean, ih, Bool.and_assoc]

/-- The entries are a specification, and no field among them goes by a reserved name. -/
def Fit (es : List (String × Value)) : Prop :=
  areEntries es = true ∧ ∀ e ∈ askedEntries es, e.1 ∉ reserved

theorem fit_nil : Fit [] := ⟨rfl, fun _ mem => nomatch mem⟩

theorem Fit.append {as bs : List (String × Value)} (left : Fit as) (right : Fit bs) :
    Fit (as ++ bs) := by
  constructor
  · rw [areEntries_append, left.1, right.1]
    rfl
  · rw [askedEntries_append]
    exact List.forall_mem_append.mpr ⟨left.2, right.2⟩

theorem fit_singleton {key : String} (v : Value) (field : key ≠ orKey) (free : key ∉ reserved) :
    Fit [(key, v)] := by
  constructor
  · simp [areEntries, field]
  · rw [askedEntries, if_neg field]
    simpa [askedEntries] using free

theorem allMean_singleton (assign : String → Value → Bool) {key : String} (v : Value)
    (field : key ≠ orKey) : allMean assign [(key, v)] = assign (dotted key) v := by
  rw [allMean, if_neg field]
  exact Bool.and_true _

theorem dotted_isnull (field : String) : dotted (field ++ ".isnull") = dotted field ++ "__isnull" := by
  apply String.toList_inj.mp
  simp [dotted]

theorem isnull_ne (field : String) {name : String} (h : '.' ∉ name.toList) :
    field ++ ".isnull" ≠ name := by
  rintro rfl
  exact h (by simp)

theorem isnull_not_mem_reserved (field : String) : field ++ ".isnull" ∉ reserved := by
  intro mem
  have dotless : ∀ name ∈ reserved, '.' ∉ name.toList := by decide
  exact isnull_ne field (dotless _ mem) rfl

/-! ## Which pages are kept -/

/-- Whether drafts are kept: the option decides, unless it is not there or null. -/
def KeepsDrafts (s : Settings) (c : Option ContentType) : Prop :=
  let option := c.bind fun c => Entries.get? "exclude_drafts" c.options
  (∃ v, option = some v ∧ v ≠ .null ∧ v.truthy = false) ∨
    (option = none ∨ option = some .null) ∧ s.excludeDrafts.truthy = false

/-- Whether a page is kept, when `assign` says what is true of it. -/
structure Kept (s : Settings) (c : Option ContentType) (t : Traits) (pageId : Value)
    (excludeField publishedField idField : String) (assign : String → Value → Bool) : Prop where
  unmarked : t.hasExcludeField.truthy = false ∨
    assign (dotted excludeField ++ "__isnull") (.bool true) = true ∨
      assign (dotted excludeField) (.bool false) = true
  asked : pageId = .null ∨ assign (dotted idField) pageId = true
  published : KeepsDrafts s c ∨ t.draftAndPublish.truthy = false ∨
    assign (dotted publishedField ++ "__isnull") (.bool false) = true

/-- What is said of drafts when the setting is left aside as long as an option is null. -/
def givenDrafts (s : Settings) : Option ContentType → Value
  | some c => c.excludeDrafts s
  | none => .null

/-- Whether drafts are left out, where null for `excludeDrafts` stands for the setting. -/
def draftsOr (s : Settings) (excludeDrafts : Value) : Value :=
  if excludeDrafts = .null then s.excludeDrafts else excludeDrafts

theorem draftsOr_truthy_iff (s : Settings) (c : Option ContentType) :
    (draftsOr s (givenDrafts s c)).truthy = false ↔ KeepsDrafts s c := by
  unfold draftsOr givenDrafts KeepsDrafts
  cases c with
  | none => simp
  | some c =>
    unfold ContentType.excludeDrafts
    simp only [Option.bind_some]
    obtain absent | ⟨v, given⟩ := Option.eq_none_or_eq_some (Entries.get? "exclude_drafts" c.options)
    · simp [absent]
    · by_cases null : v = .null
      · simp [given, null]
      · simp [given, null]

/-! ## The entries of the filters -/

section

variable (t : Traits) (drafts pageId : Value) (excludeField publishedField idField : String)

def markSpec : Spec :=
  if t.hasExcludeField.truthy then [notExcluded (.text excludeField)] else []

/-- The alternatives that keep a page from being marked as left out. -/
def markEntries : List (String × Value) :=
  if t.hasExcludeField.truthy then
    [(orKey, .list [.mapping [(excludeField ++ ".isnull", .bool true)],
      .mapping [(excludeField, .bool false)]])]
  else []

def idEntries : List (String × Value) := if pageId = .null then [] else [(idField, pageId)]

def draftEntries : List (String × Value) :=
  if drafts.truthy && t.draftAndPublish.truthy then
    [(publishedField ++ ".isnull", .bool false)]
  else []

end

variable {s : Settings} {c : Option ContentType} {t : Traits} {pageId : Value} {q : PageQuery}
  {excludeField publishedField idField : String}

theorem key_of_mem_markEntries {e : String × Value} (mem : e ∈ markEntries t excludeField) :
    e.1 = orKey := by
  unfold markEntries at mem
  split at mem
  · rw [List.mem_singleton.mp mem]
  · cases mem

theorem key_of_mem_idEntries {e : String × Value} (mem : e ∈ idEntries pageId idField) :
    e.1 = idField := by
  unfold idEntries at mem
  split at mem
  · cases mem
  · rw [List.mem_singleton.mp mem]

theorem written_marks (t : Traits) (excludeField : String) :
    (markSpec t excludeField).Written (markEntries t excludeField) := by
  unfold markSpec markEntries
  split
  · exact .cons (.oneOf [(excludeField ++ ".isnull", .bool true), (excludeField, .bool false)]) .nil
  · exact .nil

/-- With texts for the names of the fields, no key is refused. -/
theorem visible_of_texts (marks : s.excludeField = .text excludeField)
    (publishes : s.publishedField = .text publishedField) (identifies : s.idField = .text idField)
    (excludeDrafts : Value) :
    visible s t excludeDrafts pageId =
      let marked := markSpec t excludeField
      let asked := if pageId = .null then marked else Spec.put (.one (.text idField) pageId) marked
      .ok (if (draftsOr s excludeDrafts).truthy && t.draftAndPublish.truthy then
        Spec.put (.one (.text (publishedField ++ ".isnull")) (.bool false)) asked
      else asked) := by
  unfold visible
  rw [marks, publishes, identifies]
  by_cases marked : t.hasExcludeField.truthy = true <;> by_cases all : pageId = .null
  all_goals
    simp only [markSpec, marked, all, if_true, if_false]
    rfl

/-- The names of the fields are texts that do not run into each other as keys. -/
structure FieldNames (s : Settings) (excludeField publishedField idField : String) : Prop where
  marks : s.excludeField = .text excludeField
  publishes : s.publishedField = .text publishedField
  identifies : s.idField = .text idField
  mark_ne : excludeField ≠ orKey
  id_ne : idField ≠ orKey
  apart : idField ≠ publishedField ++ ".isnull"

namespace FieldNames

variable (names : FieldNames s excludeField publishedField idField)
include names

theorem written_asked :
    Spec.Written (if pageId = .null then markSpec t excludeField
      else Spec.put (.one (.text idField) pageId) (markSpec t excludeField))
      (markEntries t excludeField ++ idEntries pageId idField) := by
  unfold idEntries
  split
  · rw [List.append_nil]
    exact written_marks t excludeField
  · apply (written_marks t excludeField).put
    intro e mem
    rw [key_of_mem_markEntries mem]
    exact names.id_ne.symm

theorem written_of_visible {excludeDrafts : Value} {spec : Spec}
    (h : visible s t excludeDrafts pageId = .ok spec) :
    spec.Written (markEntries t excludeField ++ idEntries pageId idField
      ++ draftEntries t (draftsOr s excludeDrafts) publishedField) := by
  rw [visible_of_texts names.marks names.publishes names.identifies] at h
  cases h
  unfold draftEntries
  split
  · apply names.written_asked.put
    intro e mem
    rcases List.mem_append.mp mem with mark | id
    · rw [key_of_mem_markEntries mark]
      exact (isnull_ne publishedField (by decide)).symm
    · rw [key_of_mem_idEntries id]
      exact names.apart
  · rw [List.append_nil]
    exact names.written_asked

end FieldNames

/-! ## What is asked of a page -/

theorem fit_markEntries (field : excludeField ≠ orKey) (free : excludeField ∉ reserved) :
    Fit (markEntries t excludeField) := by
  unfold markEntries
  split
  · have isnull : excludeField ++ ".isnull" ≠ orKey := isnull_ne excludeField (by decide)
    constructor
    · simp [areEntries, areAlternatives, areSpecs, isSpec, isnull, field]
    · have asks : askedEntries [(orKey, .list [.mapping [(excludeField ++ ".isnull", .bool true)],
          .mapping [(excludeField, .bool false)]])]
          = [(excludeField ++ ".isnull", .bool true), (excludeField, .bool false)] := by
        simp [askedEntries, askedAlternatives, askedSpecs, asked, isnull, field]
      rw [asks]
      intro e mem
      rcases List.mem_cons.mp mem with rfl | mem
      · exact isnull_not_mem_reserved excludeField
      · rw [List.mem_singleton.mp mem]
        exact free
  · exact fit_nil

theorem fit_idEntries (field : idField ≠ orKey) (free : idField ∉ reserved) :
    Fit (idEntries pageId idField) := by
  unfold idEntries
  split
  · exact fit_nil
  · exact fit_singleton pageId field free

theorem fit_draftEntries (drafts : Value) (publishedField : String) :
    Fit (draftEntries t drafts publishedField) := by
  unfold draftEntries
  split
  · exact fit_singleton _ (isnull_ne publishedField (by decide)) (isnull_not_mem_reserved _)
  · exact fit_nil

variable (assign : String → Value → Bool)

theorem allMean_markEntries_iff (field : excludeField ≠ orKey) :
    allMean assign (markEntries t excludeField) = true ↔
      t.hasExcludeField.truthy = false ∨
        assign (dotted excludeField ++ "__isnull") (.bool true) = true ∨
          assign (dotted excludeField) (.bool false) = true := by
  unfold markEntries
  by_cases marked : t.hasExcludeField.truthy = true
  · have isnull : excludeField ++ ".isnull" ≠ orKey := isnull_ne excludeField (by decide)
    rw [if_pos marked, marked]
    simp [allMean, alternativesMean, someSpecMeans, means, vacuousSpecs, vacuous, vacuousEntries,
      isnull, field, dotted_isnull]
  · have unmarked : t.hasExcludeField.truthy = false := by simpa using marked
    rw [if_neg marked]
    simp [allMean, unmarked]

theorem allMean_idEntries_iff (field : idField ≠ orKey) :
    allMean assign (idEntries pageId idField) = true ↔
      pageId = .null ∨ assign (dotted idField) pageId = true := by
  unfold idEntries
  by_cases all : pageId = .null
  · simp [all, allMean]
  · rw [if_neg all, allMean_singleton assign pageId field]
    simp [all]

theorem allMean_draftEntries_iff (drafts : Value) (publishedField : String) :
    allMean assign (draftEntries t drafts publishedField) = true ↔
      drafts.truthy = false ∨ t.draftAndPublish.truthy = false ∨
        assign (dotted publishedField ++ "__isnull") (.bool false) = true := by
  unfold draftEntries
  rw [← dotted_isnull]
  have field : publishedField ++ ".isnull" ≠ orKey := isnull_ne publishedField (by decide)
  have mean := allMean_singleton assign (.bool false) field
  cases drafts.truthy <;> cases t.draftAndPublish.truthy <;> simp [allMean, mean]

theorem visible_of_build (built : PageQuery.build s c t pageId = .ok q) :
    visible s t (givenDrafts s c) pageId = .ok q.filters := by
  unfold PageQuery.build at built
  obtain ⟨_, -, rest⟩ := exists_of_bind built
  obtain ⟨_, -, rest⟩ := exists_of_bind rest
  obtain ⟨filters, made, rest⟩ := exists_of_bind rest
  cases rest
  exact ok_of_mapError made

theorem FieldNames.fit (names : FieldNames s excludeField publishedField idField)
    (markFree : excludeField ∉ reserved) (idFree : idField ∉ reserved) (drafts : Value) :
    Fit (markEntries t excludeField ++ idEntries pageId idField
      ++ draftEntries t drafts publishedField) := by
  apply Fit.append
  · exact (fit_markEntries names.mark_ne markFree).append (fit_idEntries names.id_ne idFree)
  · exact fit_draftEntries drafts publishedField

theorem FieldNames.allMean_iff (names : FieldNames s excludeField publishedField idField) :
    allMean assign (markEntries t excludeField ++ idEntries pageId idField
      ++ draftEntries t (draftsOr s (givenDrafts s c)) publishedField) = true ↔
      Kept s c t pageId excludeField publishedField idField assign := by
  rw [allMean_append, allMean_append, Bool.and_eq_true, Bool.and_eq_true,
    allMean_markEntries_iff assign names.mark_ne, allMean_idEntries_iff assign names.id_ne,
    allMean_draftEntries_iff, draftsOr_truthy_iff]
  constructor
  · rintro ⟨⟨unmarked, asked⟩, published⟩
    exact ⟨unmarked, asked, published⟩
  · rintro ⟨unmarked, asked, published⟩
    exact ⟨⟨unmarked, asked⟩, published⟩

/-- The pages that the query of a content type keeps are those it is asked for. -/
theorem kept_of_build (names : FieldNames s excludeField publishedField idField)
    (markFree : excludeField ∉ reserved) (idFree : idField ∉ reserved)
    (built : PageQuery.build s c t pageId = .ok q) :
    ∃ es g, q.filters.Written es ∧ compile (.mapping es) = .ok g ∧ q.filters.compile = .ok g ∧
      ∀ assign, g.holds assign = true ↔
        Kept s c t pageId excludeField publishedField idField assign := by
  have written := names.written_of_visible (visible_of_build built)
  obtain ⟨spec, free⟩ := names.fit markFree idFree (draftsOr s (givenDrafts s c))
  obtain ⟨g, compiled, -, meaning⟩ := agrees_compile (.mapping _) spec free
  refine ⟨_, g, written, compiled, ?_, fun assign => ?_⟩
  · rw [compile_of_written written]
    exact compiled
  · have same : g.holds assign = means assign (.mapping _) := meaning assign
    rw [same, means]
    exact names.allMean_iff assign

/-- Settings whose names have dots, and a content type that leaves drafts to the setting. -/
def dottedNames : Settings :=
  { excludeField := .text "meta.hidden", publishedField := .text "meta.out", idField := .text "id" }

def undecided : ContentType := ⟨[("en", "/[slug]")], [("exclude_drafts", .null)]⟩

/-- A page asked for by a number that counts as false is asked for. -/
theorem kept_of_build_zero :
    FieldNames dottedNames "meta.hidden" "meta.out" "id" ∧
      "meta.hidden" ∉ reserved ∧ "id" ∉ reserved ∧
      ∃ q, PageQuery.build dottedNames (some undecided) { draftAndPublish := .bool true } (.int 0)
          = .ok q ∧
        ∃ es g, q.filters.Written es ∧ compile (.mapping es) = .ok g ∧ q.filters.compile = .ok g ∧
          ∀ assign, g.holds assign = true ↔
            Kept dottedNames (some undecided) { draftAndPublish := .bool true } (.int 0)
              "meta.hidden" "meta.out" "id" assign := by
  have names : FieldNames dottedNames "meta.hidden" "meta.out" "id" :=
    ⟨rfl, rfl, rfl, by decide, by decide, by decide⟩
  have built : ∃ q, PageQuery.build dottedNames (some undecided)
      { draftAndPublish := .bool true } (.int 0) = .ok q := ⟨_, rfl⟩
  obtain ⟨q, built⟩ := built
  exact ⟨names, by decide, by decide, q, built, kept_of_build names (by decide) (by decide) built⟩

/-- A page that is asked for under the name of `_negated` is not asked for: all pages are kept. -/
theorem not_kept_of_build_negated :
    FieldNames { idField := .text "_negated" } "sitemap_exclude" "published_at" "_negated" ∧
      ∃ q g, PageQuery.build { idField := .text "_negated" } none {} (.int 5) = .ok q ∧
        q.filters.compile = .ok g ∧
        ¬∀ assign, g.holds assign = true ↔
          Kept { idField := .text "_negated" } none {} (.int 5)
            "sitemap_exclude" "published_at" "_negated" assign := by
  let unmarked : Group := {
    connector := .or
    children := [.leaf "sitemap_exclude__isnull" (.bool true),
      .leaf "sitemap_exclude" (.bool false)] }
  refine ⟨⟨rfl, rfl, rfl, by decide, by decide, by decide⟩, _, unmarked, rfl, rfl, ?_⟩
  intro same
  -- The page is not marked as left out, and it is another page.
  have holds : unmarked.holds (fun lookup _ => lookup == "sitemap_exclude__isnull") = true := by
    decide
  obtain ⟨-, asked, -⟩ := (same _).mp holds
  rcases asked with all | asked
  · cases all
  · exact absurd asked (by decide)

end Filter
end Sitemap
