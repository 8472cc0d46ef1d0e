/-
The other language versions of a page are read as completely as the page itself.

A page record holds, under the name of the language versions, one record for each of them.  It is the
record that the query builds of the version as a page of its own, except that the versions of the
version are left out, and every pattern makes the same address of both: `localized_of_build`.

The two records agree at every key but that name, since the relations put the same into both
(`agreeOff_of_populateEach`), and an address looks only at the keys that its tokens begin with
(`address_congr`).
-/
import Mathlib
import Sitemap.Proofs.Page.Query
import Sitemap.Proofs.Page.Record
import Sitemap.Proofs.Pattern.Layout

namespace Sitemap

namespace Pattern

variable {a b : Entries Value}

theorem Token.replacement_congr {t : Token} (same : Entries.get? t.head a = Entries.get? t.head b) :
    t.replacement a = t.replacement b := by
  obtain ⟨head, rest⟩ := t
  cases rest with
  | nil =>
    show Replacement.value ((Entries.get? head a).getD .null).displayOrEmpty
      = .value ((Entries.get? head b).getD .null).displayOrEmpty
    rw [show Entries.get? head a = Entries.get? head b from same]
  | cons part rest =>
    have relation : Token.relation? ⟨head, part :: rest⟩ = some head := rfl
    unfold Token.replacement
    rw [relation]
    simp only [show Entries.get? head a = Entries.get? head b from same]

/-- An address looks at the keys that its tokens begin with. -/
theorem address_congr {P : String} {ts : List Token} (scanned : tokens P = .ok ts)
    (same : ∀ t ∈ ts, Entries.get? t.head a = Entries.get? t.head b) :
    ∃ A, address P a = .ok A ∧ address P b = .ok A :=
  address_eq_of_replacement scanned fun t ht => Token.replacement_congr (same t ht)

end Pattern

namespace Record

variable {obj : Value} {a b a' b' : Entries Value} {k : String}

/-- Two records hold the same at every key but one. -/
def AgreeOff (k : String) (a b : Entries Value) : Prop :=
  ∀ n, n ≠ k → Entries.get? n a = Entries.get? n b

theorem AgreeOff.put (h : AgreeOff k a b) (n : String) (v : Value) :
    AgreeOff k (Entries.put n v a) (Entries.put n v b) := by
  intro l ne
  rw [Entries.get?_put, Entries.get?_put, h l ne]

theorem agreeOff_put (k : String) (v : Value) (a : Entries Value) :
    AgreeOff k (Entries.put k v a) a :=
  fun _ ne => Entries.get?_put_of_ne ne v a

/-- The relations of an object are put into both records alike. -/
theorem agreeOff_of_populateEach {relations : List (String × Value)} (agree : AgreeOff k a b)
    (ha : populateEach relations obj a = .ok a') (hb : populateEach relations obj b = .ok b') :
    AgreeOff k a' b' := by
  induction relations generalizing a b with
  | nil =>
    rw [populateEach] at ha hb
    cases ha
    cases hb
    exact agree
  | cons e relations ih =>
    obtain ⟨relation, spec⟩ := e
    rw [populateEach] at ha hb
    obtain ⟨v, made, restA⟩ := exists_of_bind ha
    obtain ⟨w, again, restB⟩ := exists_of_bind hb
    obtain rfl := Except.ok.inj (made.symm.trans again)
    exact ih (agree.put relation v) restA restB

open PageQuery in
/-- The record of one of several objects is built from the fields and relations that are read of
them. -/
theorem exists_records_of_relate {fields : List String} {relations : Entries (List String)}
    {form : Form} {items : List Value} {v : Value}
    (h : relate (Population.toValue (.nested fields relations)) (.series form items) = .ok v) :
    ∃ records, v = .list (records.map .mapping) ∧
      List.Forall₂ (fun item record => build item (.texts fields)
        (populateValue (relations.map fun r => (r.1, .fields r.2))) = .ok record) items records := by
  have below : populateValue (relations.map fun r => (r.1, .fields r.2))
      = Population.relationsValue relations := by
    unfold populateValue Population.relationsValue
    rw [List.map_map]
    rfl
  obtain ⟨spec, same, held⟩ := relate_cases h
  obtain rfl : Population.fieldsValue fields ++ [("populate", Population.relationsValue relations)]
      = spec := Value.mapping.inj same
  have asked : populateOf [("populate", Population.relationsValue relations)]
      = Population.relationsValue relations := by
    simp [populateOf, Entries.get?]
  rw [fieldsOf_fieldsValue, populateOf_fieldsValue, asked, ← below] at held
  rcases held with ⟨null, -⟩ | ⟨_, _, records, series, rfl, each⟩ | ⟨-, single, -⟩
  · cases null
  · cases series
    exact ⟨records, rfl, each⟩
  · exact absurd rfl (single form items)

end Record

namespace PageQuery

open Pattern ContentType

variable {s : Settings} {c : Option ContentType} {q : PageQuery}

/-- What a query populates besides the language versions. -/
def others (q : PageQuery) : Entries Population := q.populate.filter fun e => e.1 ≠ localizations

/-- The record of a language version is that of a page of its own without the versions of it, and
stands for it in every address. -/
structure IsVersion (q : PageQuery) (c : Option ContentType) (item : Value)
    (record : Entries Value) : Prop where
  built : Record.build item (.texts q.fields) (populateValue q.others) = .ok record
  renders : ∀ page, Record.build item (.texts q.fields) (populateValue q.populate) = .ok page →
    ∀ P ∈ patternsOf c, ∃ A, address P record = .ok A ∧ address P page = .ok A

section

variable {localized : Bool} {filters : Filter.Spec} {ts : List Token}

theorem populate_ofTokens (unread : localizations ∉ namedRelations ts) :
    (ofTokens s localized filters ts).populate
      = (localizations, .nested (pageFields localized ts) (relationsNamed ts))
        :: (relationsNamed ts).map fun r => (r.1, .fields r.2) := by
  have keys : Entries.keys ((relationsNamed ts).map fun r => (r.1, Population.fields r.2))
      = distinct (namedRelations ts) := by
    rw [Entries.keys_map, keys_relationsNamed]
  have apart : (localizations :: Entries.keys ((relationsNamed ts).map fun r =>
      (r.1, Population.fields r.2))).Nodup := by
    rw [keys, List.nodup_cons, mem_distinct]
    exact ⟨unread, nodup_distinct _⟩
  exact Entries.merge_eq_append apart

theorem others_ofTokens (unread : localizations ∉ namedRelations ts) :
    (ofTokens s localized filters ts).others
      = (relationsNamed ts).map fun r => (r.1, .fields r.2) := by
  unfold others
  rw [populate_ofTokens unread, List.filter_cons_of_neg (by simp)]
  apply List.filter_eq_self.mpr
  intro e he
  obtain ⟨⟨r, names⟩, mem, rfl⟩ := List.mem_map.mp he
  obtain ⟨named, -⟩ := mem_relationsNamed.mp mem
  have ne : r ≠ localizations := fun same => unread (same ▸ named)
  simpa using ne

/-- The page and the version of a page differ in the language versions alone. -/
theorem agreeOff_of_build (unread : localizations ∉ namedRelations ts) {item : Value}
    {record page : Entries Value}
    (version : Record.build item (.texts (ofTokens s localized filters ts).fields)
      (populateValue (ofTokens s localized filters ts).others) = .ok record)
    (whole : Record.build item (.texts (ofTokens s localized filters ts).fields)
      (populateValue (ofTokens s localized filters ts).populate) = .ok page) :
    Record.AgreeOff localizations page record := by
  rw [others_ofTokens unread] at version
  rw [populate_ofTokens unread] at whole
  -- Both start from the same fields; the page then has its versions put in before the relations.
  obtain ⟨r, put, version⟩ := exists_of_bind version
  obtain ⟨r', again, whole⟩ := exists_of_bind whole
  obtain rfl := Except.ok.inj (put.symm.trans again)
  unfold populateValue at version whole
  rw [Record.populate] at version whole
  rw [List.map_cons, Record.populateEach] at whole
  obtain ⟨v, -, whole⟩ := exists_of_bind whole
  exact Record.agreeOff_of_populateEach (Record.agreeOff_put localizations v r) whole version

end

/-- When no pattern reads the language versions, a page record has all of them, each as it would be
as a page. -/
theorem localized_of_build {src : Traits.Source} {pageId obj : Value} {form : Form}
    {items : List Value} {r : Entries Value} (asked : ofSource s c src pageId = .ok q)
    (unread : ∀ P ∈ patternsOf c, ∀ ts, tokens P = .ok ts → ∀ t ∈ ts, t.head ≠ localizations)
    (many : Record.read obj localizations = .series form items)
    (built : Record.build obj (.texts q.fields) (populateValue q.populate) = .ok r) :
    ∃ records, Entries.get? localizations r = some (.list (records.map .mapping)) ∧
      List.Forall₂ (q.IsVersion c) items records := by
  obtain ⟨traits, -, asked⟩ := exists_of_bind asked
  obtain ⟨lists, filters, scans, -, -, rfl⟩ := build_eq_ok_iff.mp asked
  have unnamed : localizations ∉ namedRelations lists.flatten := by
    intro named
    obtain ⟨f, below⟩ := mem_namedRelations.mp named
    obtain ⟨part, rest, ht, -⟩ := mem_namesBelow.mp below
    obtain ⟨P, hP, ts, scanned, mem⟩ := exists_pattern_of_mem scans ht
    exact unread P hP ts scanned _ mem rfl
  have populated : Entries.get? localizations
      (ofTokens s traits.localized.truthy filters lists.flatten).populate
        = some (.nested (pageFields traits.localized.truthy lists.flatten)
          (relationsNamed lists.flatten)) := by
    rw [populate_ofTokens unnamed, Entries.get?, if_pos rfl]
  have others : (ofTokens s traits.localized.truthy filters lists.flatten).others
      = (relationsNamed lists.flatten).map fun r => (r.1, .fields r.2) := others_ofTokens unnamed
  obtain ⟨v, made, held⟩ := Record.exists_relate_of_build nodup_keys_ofTokens built populated
  rw [many] at made
  obtain ⟨records, rfl, each⟩ := Record.exists_records_of_relate made
  refine ⟨records, held, each.imp fun item record version => ?_⟩
  rw [← others] at version
  refine ⟨version, fun page whole P hP => ?_⟩
  obtain ⟨ts, scanned⟩ := tokens_of_scans scans hP
  refine address_congr scanned fun t ht => ?_
  exact (agreeOff_of_build unnamed version whole t.head (unread P hP ts scanned t ht)).symm

/-- A page in two languages, whose French version knows the English one. -/
def bulletin : ContentType :=
  ⟨[("en", "/[category.name]/[slug]"), ("fr", "/fr/[tags.name]/[slug]")], []⟩

def bulletinQuery : PageQuery where
  filters := [Filter.notExcluded (.text "sitemap_exclude")]
  fields := ["slug", "updatedAt"]
  populate := populations ["slug", "updatedAt"] [("category", ["name"]), ("tags", ["name"])]
  orderBy := .text "id"

def frenchPage : Value := .object [("slug", .text "bonjour"),
  ("category", .object [("name", .text "nouvelles")]),
  ("tags", .series .related [.object [("name", .text "a")]]),
  ("localizations", .series .related [.object [("slug", .text "hello")]])]

def englishPage : Value := .object [("slug", .text "hello"),
  ("category", .object [("name", .text "news")]),
  ("localizations", .series .related [frenchPage, .object [("slug", .text "hallo")]])]

theorem localized_of_bulletin :
    ∃ r records, Record.build englishPage (.texts bulletinQuery.fields)
        (populateValue bulletinQuery.populate) = .ok r ∧
      Entries.get? localizations r = some (.list (records.map .mapping)) ∧
      List.Forall₂ (bulletinQuery.IsVersion (some bulletin))
        [frenchPage, .object [("slug", .text "hallo")]] records := by
  have asked : ofSource {} (some bulletin) (.described .null) .null = .ok bulletinQuery := rfl
  have unread : ∀ P ∈ patternsOf (some bulletin), ∀ ts, tokens P = .ok ts →
      ∀ t ∈ ts, t.head ≠ localizations := by
    intro P hP ts scanned t ht
    have checked : ∀ P ∈ patternsOf (some bulletin), ((tokens P).toOption.all fun ts =>
        ts.all fun t => t.head ≠ localizations) = true := by decide
    have all := checked P hP
    rw [scanned] at all
    exact of_decide_eq_true (List.all_eq_true.mp all t ht)
  have many : Record.read englishPage localizations
      = .series .related [frenchPage, .object [("slug", .text "hallo")]] := by cbv
  have built : ∃ r, Record.build englishPage (.texts bulletinQuery.fields)
      (populateValue bulletinQuery.populate) = .ok r := ⟨_, by cbv⟩
  obtain ⟨r, built⟩ := built
  obtain ⟨records, held, each⟩ := localized_of_build asked unread many built
  exact ⟨r, records, built, held, each⟩

end PageQuery
end Sitemap
