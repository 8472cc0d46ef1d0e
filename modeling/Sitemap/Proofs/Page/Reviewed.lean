/-
Patterns that pass the review against a model make a query that the model can answer.

The review looks at one pattern at a time and takes the relations from the model; the query is built
from all patterns together and takes for a relation what any of them reads a field of.  The two do not
run into each other: what the review lets pass is offered by the model, either as a field of its own
that is no relation or as a field below one of its relations (`offers_of_review`), so that no name is
read in both ways (`free_of_offers`).  The query can then always be built, and everything that it asks
for is there: `answerable_of_review`.
-/
import Sitemap.Pattern.Review
import Sitemap.Proofs.Page.Query
import Sitemap.Proofs.Pattern.Grammar
import Sitemap.Proofs.Pattern.Verdicts
import Sitemap.Schema

namespace Sitemap

namespace Pattern

theorem tokens_of_review {P : String} {allowed : List String} (h : review P allowed = .valid) :
    ∃ ts, tokens P = .ok ts ∧ ∀ t ∈ ts, t.path ∈ allowed := by
  cases merits_iff.mpr h.symm with
  | valid scanned _ all => exact ⟨_, scanned, all⟩

theorem Token.ofPath_of_not_mem {name : String} (h : '.' ∉ name.toList) :
    Token.ofPath name = ⟨name, []⟩ := by
  unfold Token.ofPath Text.split
  rw [Text.splitChars_of_not_mem h, String.ofList_toList]
  rfl

/-- A path that begins with a name without dots is read below that name. -/
theorem Token.ofPath_below {r : String} (h : '.' ∉ r.toList) (name : String) :
    Token.ofPath (r ++ "." ++ name) = ⟨r, Text.parts '.' name⟩ := by
  have whole : Text.parts '.' (r ++ "." ++ name) = r :: Text.parts '.' name := by
    have split := Text.parts_append '.' r name
    rw [show Text.parts '.' r = [r] from congrArg Token.segments (Token.ofPath_of_not_mem h)]
      at split
    exact split
  have segments := Token.segments_ofPath (r ++ "." ++ name)
  rw [whole] at segments
  cases read : Token.ofPath (r ++ "." ++ name) with
  | mk head rest =>
    rw [read] at segments
    obtain ⟨rfl, rfl⟩ := List.cons.inj segments
    rfl

end Pattern

namespace Model

variable {m : Model}

theorem nodup_relations : (Entries.keys m.relations).Nodup := Entries.nodup_keys_ofPairs _

theorem exists_field_of_relation {r : String} (h : r ∈ Entries.keys m.relations) :
    ∃ f ∈ m.fields, f.name = r := by
  rcases Entries.mem_keys_merge.mp h with none | pair
  · cases none
  · obtain ⟨e, he, rfl⟩ := List.mem_map.mp pair
    obtain ⟨f, hf, made⟩ := List.mem_filterMap.mp he
    refine ⟨f, hf, ?_⟩
    unfold relationOf? at made
    split at made
    · split at made
      · cases made
      · cases made
        rfl
    · cases made

theorem exists_field_of_stored {n : String} (h : n ∈ m.fieldNames) : ∃ f ∈ m.fields, f.name = n := by
  obtain ⟨f, hf, rfl⟩ := List.mem_map.mp h
  exact ⟨f, (List.mem_filter.mp hf).1, rfl⟩

/-- The traits of a model when the names of the fields are texts. -/
def traitsNaming (m : Model) (excludeField publishedField : String) : Traits where
  draftAndPublish := .bool (m.fieldNames.contains publishedField)
  localized := .bool (m.fieldNames.contains "locale")
  relations := (Entries.keys m.relations).map .text
  hasExcludeField := .bool (m.fieldNames.contains excludeField)

theorem traits_of_texts {s : Settings} {excludeField publishedField : String}
    (marks : s.excludeField = .text excludeField) (publishes : s.publishedField = .text publishedField) :
    m.traits s = .ok (m.traitsNaming excludeField publishedField) := by
  unfold traits
  rw [marks, publishes]
  rfl

theorem relationNames_traitsNaming (m : Model) (excludeField publishedField : String) :
    (m.traitsNaming excludeField publishedField).relationNames = Entries.keys m.relations := by
  unfold Traits.relationNames traitsNaming
  rw [List.filterMap_map]
  exact List.filterMap_some

end Model

namespace Schema

open Pattern ContentType

variable {schema : Schema} {m : Model} {ts : List Token}

/-- A token that a model offers: a stored field of its own that is no relation, or a stored field of a
model that it relates to. -/
inductive Offers (schema : Schema) (m : Model) : Token → Prop
  | own {n : String} (stored : n ∈ m.fieldNames) (plain : n ∉ Entries.keys m.relations) :
      Offers schema m ⟨n, []⟩
  | below {r target n : String} (relation : Entries.get? r m.relations = some target)
      (stored : n ∈ schema.fieldNames target) : Offers schema m ⟨r, Text.parts '.' n⟩

theorem mem_allowedPaths {p : String} (h : p ∈ schema.allowedPaths m) :
    (p ∈ m.fieldNames ∧ p ∉ Entries.keys m.relations) ∨
      ∃ r target n, (r, target) ∈ m.relations ∧ n ∈ schema.fieldNames target ∧
        p = r ++ "." ++ n := by
  rcases List.mem_append.mp h with own | below
  · obtain ⟨stored, plain⟩ := List.mem_filter.mp own
    exact .inl ⟨stored, by simpa using plain⟩
  · obtain ⟨⟨r, target⟩, relation, mem⟩ := List.mem_flatMap.mp below
    obtain ⟨n, stored, rfl⟩ := List.mem_map.mp mem
    exact .inr ⟨r, target, n, relation, stored, rfl⟩

theorem offers_of_mem_allowedPaths (dotless : ∀ f ∈ m.fields, '.' ∉ f.name.toList) {p : String}
    (h : p ∈ schema.allowedPaths m) : Offers schema m (Token.ofPath p) := by
  rcases mem_allowedPaths h with ⟨stored, plain⟩ | ⟨r, target, n, relation, stored, rfl⟩
  · obtain ⟨f, hf, rfl⟩ := Model.exists_field_of_stored stored
    rw [Token.ofPath_of_not_mem (dotless f hf)]
    exact .own stored plain
  · obtain ⟨f, hf, rfl⟩ := Model.exists_field_of_relation (List.mem_map_of_mem relation)
    rw [Token.ofPath_below (dotless f hf)]
    exact .below (Entries.get?_of_mem Model.nodup_relations relation) stored

theorem offers_of_review (dotless : ∀ f ∈ m.fields, '.' ∉ f.name.toList) {P : String}
    (accepted : review P (schema.allowedPaths m) = .valid) :
    ∃ ts, tokens P = .ok ts ∧ ∀ t ∈ ts, Offers schema m t := by
  obtain ⟨ts, scanned, allowed⟩ := tokens_of_review accepted
  refine ⟨ts, scanned, fun t ht => ?_⟩
  have offered := offers_of_mem_allowedPaths dotless (allowed t ht)
  rwa [(written_of_tokens scanned t ht).again] at offered

theorem offers_of_reviews (dotless : ∀ f ∈ m.fields, '.' ∉ f.name.toList) {Ps : List String}
    (accepted : ∀ P ∈ Ps, review P (schema.allowedPaths m) = .valid) :
    ∃ lists, List.Forall₂ (fun P ts => tokens P = .ok ts) Ps lists ∧
      ∀ t ∈ lists.flatten, Offers schema m t := by
  induction Ps with
  | nil => exact ⟨[], .nil, fun _ mem => nomatch mem⟩
  | cons P Ps ih =>
    obtain ⟨here, later⟩ := List.forall_mem_cons.mp accepted
    obtain ⟨ts, scanned, offered⟩ := offers_of_review dotless here
    obtain ⟨lists, scans, others⟩ := ih later
    exact ⟨ts :: lists, .cons scanned scans, List.forall_mem_append.mpr ⟨offered, others⟩⟩

/-! ## What is read of the model -/

theorem Offers.own_of_mem (offered : ∀ t ∈ ts, Offers schema m t) {n : String}
    (h : n ∈ ownNames ts) : n ∈ m.fieldNames ∧ n ∉ Entries.keys m.relations := by
  have offer := offered _ (mem_ownNames.mp h)
  -- The parts below a relation are a function of its field, so the token is named for the cases.
  generalize read : (⟨n, []⟩ : Token) = t at offer
  cases offer with
  | own stored plain =>
    cases read
    exact ⟨stored, plain⟩
  | below relation stored => cases read

theorem Offers.below_of_mem (offered : ∀ t ∈ ts, Offers schema m t) {r f : String}
    (h : f ∈ namesBelow r ts) :
    ∃ target, Entries.get? r m.relations = some target ∧ f ∈ schema.fieldNames target := by
  obtain ⟨part, rest, mem, path⟩ := mem_namesBelow.mp h
  have offer := offered _ mem
  generalize read : (⟨r, part :: rest⟩ : Token) = t at offer
  cases offer with
  | own stored plain => cases read
  | @below r' target n relation stored =>
    obtain ⟨rfl, parts⟩ := Token.mk.inj read
    have same : f = n := by
      rw [path, parts]
      exact Text.join_parts '.' n
    exact ⟨target, relation, same ▸ stored⟩

theorem Offers.relation_of_mem (offered : ∀ t ∈ ts, Offers schema m t) {r : String}
    (h : r ∈ namedRelations ts) : r ∈ Entries.keys m.relations := by
  obtain ⟨f, below⟩ := mem_namedRelations.mp h
  obtain ⟨target, relation, -⟩ := Offers.below_of_mem offered below
  exact Entries.get?_isSome_iff.mp (by rw [relation]; rfl)

/-- No name is read both as a field and as a relation. -/
theorem free_of_offers (offered : ∀ t ∈ ts, Offers schema m t) :
    Free (Entries.keys m.relations) ts := by
  intro n own
  obtain ⟨-, plain⟩ := Offers.own_of_mem offered own
  exact ⟨plain, fun named => plain (Offers.relation_of_mem offered named)⟩

end Schema

namespace Filter

theorem Spec.eq_or_mem_of_put {a b : Ask} {spec : Spec} (h : a ∈ Spec.put b spec) :
    a = b ∨ a ∈ spec := by
  induction spec with
  | nil => exact .inl (List.mem_singleton.mp h)
  | cons d spec ih =>
    rw [Spec.put] at h
    split at h
    · rcases List.mem_cons.mp h with same | later
      · exact .inl same
      · exact .inr (List.mem_cons_of_mem _ later)
    · rcases List.mem_cons.mp h with rfl | later
      · exact .inr List.mem_cons_self
      · exact (ih later).imp_right (List.mem_cons_of_mem _)

/-- Each filter is there for a reason: a mark that there is, a page that is asked for, drafts that
there are. -/
theorem reason_of_mem_visible {s : Settings} {t : Traits} {excludeDrafts pageId : Value}
    {excludeField publishedField idField : String} {spec : Spec}
    (marks : s.excludeField = .text excludeField)
    (publishes : s.publishedField = .text publishedField) (identifies : s.idField = .text idField)
    (made : visible s t excludeDrafts pageId = .ok spec) {a : Ask} (h : a ∈ spec) :
    (a = notExcluded (.text excludeField) ∧ t.hasExcludeField.truthy = true) ∨
      (a = .one (.text idField) pageId ∧ pageId ≠ .null) ∨
      (a = .one (.text (publishedField ++ ".isnull")) (.bool false) ∧
        t.draftAndPublish.truthy = true) := by
  rw [visible_of_texts marks publishes identifies] at made
  cases made
  have marked {a : Ask} (h : a ∈ markSpec t excludeField) :
      a = notExcluded (.text excludeField) ∧ t.hasExcludeField.truthy = true := by
    unfold markSpec at h
    split at h
    · exact ⟨List.mem_singleton.mp h, by assumption⟩
    · cases h
  have asked {a : Ask} (h : a ∈ if pageId = .null then markSpec t excludeField
      else Spec.put (.one (.text idField) pageId) (markSpec t excludeField)) :
      (a = notExcluded (.text excludeField) ∧ t.hasExcludeField.truthy = true) ∨
        (a = .one (.text idField) pageId ∧ pageId ≠ .null) := by
    split at h
    · exact .inl (marked h)
    · rcases Spec.eq_or_mem_of_put h with same | mem
      · exact .inr ⟨same, by assumption⟩
      · exact .inl (marked mem)
  split at h
  · rename_i drafts
    rcases Spec.eq_or_mem_of_put h with same | mem
    · exact .inr (.inr ⟨same, (Bool.and_eq_true_iff.mp drafts).2⟩)
    · exact (asked mem).imp_right .inl
  · exact (asked h).imp_right .inl

end Filter

namespace PageQuery

open Pattern ContentType

/-- The names of the fields that filters are made of are texts. -/
structure Naming (s : Settings) (excludeField publishedField idField : String) : Prop where
  marks : s.excludeField = .text excludeField
  publishes : s.publishedField = .text publishedField
  identifies : s.idField = .text idField

/-- A model can answer a query: everything that the query asks for is there. -/
structure Answerable (schema : Schema) (m : Model) (c : Option ContentType) (pageId : Value)
    (excludeField publishedField idField : String) (q : PageQuery) : Prop where
  fields : ∀ n ∈ q.fields, n ∈ m.fieldNames ∨ n = "updatedAt"
  populated : ∀ r ∈ Entries.keys q.populate, r ∈ Entries.keys m.relations ∨ r = "localizations"
  /-- What is read below a relation of a pattern is stored in the model that it relates to. -/
  below : ∀ P ∈ patternsOf c, ∀ ts, tokens P = .ok ts → ∀ t ∈ ts, ∀ r, t.relation? = some r →
    ∃ target names, Entries.get? r m.relations = some target ∧
      Entries.get? r q.populate = some (.fields names) ∧ ∀ n ∈ names, n ∈ schema.fieldNames target
  /-- A filter is the mark of a stored field, the page asked for, or the publication in a stored
  field. -/
  filtered : ∀ a ∈ q.filters,
    (a = Filter.notExcluded (.text excludeField) ∧ excludeField ∈ m.fieldNames) ∨
      (a = .one (.text idField) pageId ∧ pageId ≠ .null) ∨
      (a = .one (.text (publishedField ++ ".isnull")) (.bool false) ∧
        publishedField ∈ m.fieldNames)

variable {schema : Schema} {m : Model} {s : Settings} {c : Option ContentType}
  {excludeField publishedField idField : String}

/-- When every pattern passes the review against a model, the query for any page of it can be built,
and the model can answer it. -/
theorem answerable_of_review (names : Naming s excludeField publishedField idField)
    (dotless : ∀ f ∈ m.fields, '.' ∉ f.name.toList)
    (accepted : ∀ P ∈ patternsOf c, review P (schema.allowedPaths m) = .valid) (pageId : Value) :
    ∃ t q, m.traits s = .ok t ∧ ofSource s c (.given t) pageId = .ok q ∧
      q.Answerable schema m c pageId excludeField publishedField idField := by
  obtain ⟨lists, scans, offered⟩ := Schema.offers_of_reviews dotless accepted
  have free : Free (m.traitsNaming excludeField publishedField).relationNames lists.flatten := by
    rw [Model.relationNames_traitsNaming]
    exact Schema.free_of_offers offered
  have filters : Filter.visible s (m.traitsNaming excludeField publishedField)
      (Filter.givenDrafts s c) pageId = _ :=
    Filter.visible_of_texts names.marks names.publishes names.identifies (Filter.givenDrafts s c)
  refine ⟨_, _, Model.traits_of_texts names.marks names.publishes,
    build_eq_ok_iff.mpr ⟨lists, _, scans, free, filters, rfl⟩, ?_, ?_, ?_, ?_⟩
  · intro n hn
    rcases mem_fields_ofTokens.mp hn with own | ⟨localized, rfl⟩ | standing
    · exact .inl (Schema.Offers.own_of_mem offered own).1
    · exact .inl (List.contains_iff_mem.mp localized)
    · exact .inr standing
  · intro r hr
    rcases mem_keys_ofTokens.mp hr with versions | named
    · exact .inr versions
    · exact .inl (Schema.Offers.relation_of_mem offered named)
  · intro P hP ts scanned t ht r relation
    obtain ⟨head, rest⟩ := t
    cases rest with
    | nil => cases relation
    | cons part rest =>
      obtain rfl : head = r := Option.some.inj relation
      have read := mem_flatten_of_scans scans hP scanned ht
      have mem := mem_namesBelow.mpr ⟨part, rest, read, rfl⟩
      obtain ⟨target, related, -⟩ := Schema.Offers.below_of_mem offered mem
      refine ⟨target, _, related, get?_ofTokens (mem_namedRelations.mpr ⟨_, mem⟩), fun n hn => ?_⟩
      obtain ⟨target', again, stored⟩ :=
        Schema.Offers.below_of_mem offered (mem_distinct.mp hn)
      obtain rfl := Option.some.inj (related.symm.trans again)
      exact stored
  · intro a ha
    rcases Filter.reason_of_mem_visible names.marks names.publishes names.identifies filters ha with
      ⟨same, mark⟩ | asked | ⟨same, drafts⟩
    · exact .inl ⟨same, List.contains_iff_mem.mp mark⟩
    · exact .inr (.inl asked)
    · exact .inr (.inr ⟨same, List.contains_iff_mem.mp drafts⟩)

/-- A model with a mark and no time of publication, which relates to itself and to another. -/
def story : Model where
  name := "Story"
  fields := [
    { name := "id", column := .text "id" },
    { name := "slug", column := .text "slug" },
    { name := "locale", column := .text "locale" },
    { name := "sitemap_exclude", column := .text "sitemap_exclude" },
    { name := "category", column := .text "category_id", related := some "Category" },
    { name := "localizations", related := some "Story" },
    { name := "comment", related := some "Comment", automatic := true }]

def category : Model where
  name := "Category"
  fields := [{ name := "id", column := .text "id" }, { name := "name", column := .text "name" }]

/-- Two languages, one of which reads below the relation of the language versions. -/
def stories : ContentType :=
  ⟨[("en", "/[locale]/[category.name]/[slug]"), ("fr", "/[localizations.slug]/[id]")], []⟩

theorem answerable_of_stories :
    Naming {} "sitemap_exclude" "published_at" "id" ∧
      (∀ f ∈ story.fields, '.' ∉ f.name.toList) ∧
      (∀ P ∈ patternsOf (some stories),
        review P (Schema.allowedPaths [story, category] story) = .valid) ∧
      ∃ t q, story.traits {} = .ok t ∧ ofSource {} (some stories) (.given t) (.int 42) = .ok q ∧
        q.Answerable [story, category] story (some stories) (.int 42)
          "sitemap_exclude" "published_at" "id" := by
  have names : Naming {} "sitemap_exclude" "published_at" "id" := ⟨rfl, rfl, rfl⟩
  have dotless : ∀ f ∈ story.fields, '.' ∉ f.name.toList := by decide
  have accepted : ∀ P ∈ patternsOf (some stories),
      review P (Schema.allowedPaths [story, category] story) = .valid := by decide
  exact ⟨names, dotless, accepted, answerable_of_review names dotless accepted (.int 42)⟩

end PageQuery
end Sitemap
