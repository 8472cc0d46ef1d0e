/-
An address is rendered from a record as it would be from the object itself.

What a query reads of the object is put into a record, and the address is made from the record
alone.  Rendered directly, every token of a pattern stands for the value at the end of its whole
path in the object, except that a token through a relation with many values is kept.  The two agree
for every pattern of the content type, texts and reports alike: `rendered_of_build`.
-/
import Mathlib
import Sitemap.Proofs.Page.Record
import Sitemap.Proofs.Pattern.Layout

namespace Sitemap

namespace Pattern

variable {obj : Value}

/-- Whether a token reads a field of a relation with many values. -/
def Token.readsMany (obj : Value) (t : Token) : Bool :=
  match t.relation? with
  | some relation => Record.isMany (Record.read obj relation)
  | none => false

/-- The text of a token, read from an object. -/
def Token.rendered (obj : Value) (t : Token) : Except ShapeFault (List Char) :=
  if t.readsMany obj then .ok t.bracketed
  else (Record.serialize (Record.read obj t.path)).map fun v => v.displayOrEmpty.toList

/-- What is reported of a token, read from an object. -/
def Token.reported? (obj : Value) (t : Token) : Option Notice :=
  if t.readsMany obj then some (.manyRecords t.path t.head) else none

/-- The address of an object by a layout, made without a record. -/
def Layout.rendered (obj : Value) (L : Layout) : Except ShapeFault Address := do
  let texts ← L.rest.mapM fun e => (e.1.rendered obj).map (· ++ e.2)
  return ⟨canonical (String.ofList (L.lead ++ texts.flatten)),
    L.tokens.filterMap (Token.reported? obj)⟩

theorem Layout.rendered_of_tokens {L : Layout} {record : Entries Value}
    (h : ∀ t ∈ L.tokens, t.rendered obj = .ok (t.replaced record) ∧
      t.reported? obj = t.notice? record) :
    L.rendered obj = .ok ⟨canonical (String.ofList (L.fill (Token.replaced record))),
      L.tokens.filterMap (Token.notice? record)⟩ := by
  have texts : L.rest.mapM (fun e => (e.1.rendered obj).map (· ++ e.2))
      = .ok (L.rest.map fun e => e.1.replaced record ++ e.2) := by
    refine mapM_ok fun e he => ?_
    rw [(h e.1 (List.mem_map_of_mem he)).1]
    rfl
  have notices : L.tokens.filterMap (Token.reported? obj)
      = L.tokens.filterMap (Token.notice? record) :=
    List.filterMap_congr fun t ht => (h t ht).2
  unfold Layout.rendered
  rw [texts, notices]
  rfl

theorem Token.of_relation?_eq_none {t : Token} (h : t.relation? = none) : t.field = t.path := by
  obtain ⟨head, rest⟩ := t
  cases rest with
  | nil => rfl
  | cons s rest => cases h

theorem Token.of_relation?_eq_some {t : Token} {relation : String}
    (h : t.relation? = some relation) :
    t.head = relation ∧ t.path = relation ++ "." ++ t.field := by
  obtain ⟨head, rest⟩ := t
  cases rest with
  | nil => cases h
  | cons s rest =>
    obtain rfl : head = relation := Option.some.inj h
    exact ⟨rfl, rfl⟩

end Pattern

namespace PageQuery

open Pattern

variable {q : PageQuery} {obj : Value} {r : Entries Value}

theorem Covers.rendered {t : Token} (covers : q.Covers t) (other : t.path ≠ localizations)
    (own : (Entries.keys q.populate).Nodup)
    (built : Record.build obj (.texts q.fields) (populateValue q.populate) = .ok r) :
    t.rendered obj = .ok (t.replaced r) ∧ t.reported? obj = t.notice? r := by
  unfold Covers at covers
  cases relation : t.relation? with
  | none =>
    have path : t.field = t.path := Token.of_relation?_eq_none relation
    rw [relation] at covers
    obtain ⟨read, free⟩ := covers
    -- The relations leave the field alone.
    have free : t.field ∉ Entries.keys q.populate := free (by rw [path]; exact other)
    rw [← Record.keys_relationsOf_populateValue] at free
    obtain ⟨v, made, kept⟩ := Record.get?_of_build built rfl read free
    have few : t.readsMany obj = false := by unfold Token.readsMany; rw [relation]
    have value : t.replacement r = .value v.displayOrEmpty := by
      unfold Token.replacement
      rw [relation]
      show Replacement.value ((Entries.get? t.field r).getD .null).displayOrEmpty = _
      rw [kept]
      rfl
    unfold Token.rendered Token.replaced Token.reported? Token.notice?
    rw [few, value, ← path, made]
    exact ⟨rfl, rfl⟩
  | some R =>
    obtain ⟨head, path⟩ := Token.of_relation?_eq_some relation
    rw [relation] at covers
    obtain ⟨names, asked, read⟩ := covers
    obtain ⟨v, made, got⟩ := Record.exists_relate_of_build own built asked
    have many : t.readsMany obj = Record.isMany (Record.read obj R) := by
      unfold Token.readsMany
      rw [relation]
    have whole : Record.read obj t.path = Record.read (Record.read obj R) t.field := by
      rw [path, Record.read_append]
    unfold Token.rendered Token.replaced Token.reported? Token.notice? Token.replacement
    rw [many, whole, relation]
    simp only [got]
    rcases Record.of_relate made with ⟨null, rfl⟩ | ⟨series, items, rfl⟩ | ⟨single, es, rfl, each⟩
    · rw [null, Record.read_null]
      exact ⟨rfl, rfl⟩
    · rw [series]
      exact ⟨rfl, rfl⟩
    · obtain ⟨w, serialized, held⟩ := Record.get?_of_ofFields each t.field read
      rw [single, serialized]
      simp only [held]
      exact ⟨rfl, rfl⟩

/-- For every pattern of a content type, the address that is made from the record of an object is
the one that is rendered from the object itself. -/
theorem rendered_of_build {s : Settings} {c : ContentType} {src : Traits.Source} {pageId : Value}
    (asked : ofSource s (some c) src pageId = .ok q)
    (other : ∀ P ∈ c.patterns, ∀ ts, tokens P = .ok ts → ∀ t ∈ ts, t.path ≠ localizations)
    (built : Record.build obj (.texts q.fields) (populateValue q.populate) = .ok r) :
    ∀ P ∈ c.patterns, (∃ L : Layout, L.Describes P) ∧
      ∀ L : Layout, L.Describes P → ∃ a, L.rendered obj = .ok a ∧ address P r = .ok a := by
  intro P hP
  obtain ⟨own, covered⟩ := covers_of_ofSource asked
  obtain ⟨ts, scanned, covers⟩ := covered P hP
  refine ⟨exists_describes scanned, fun L describes => ?_⟩
  obtain rfl : ts = L.tokens := by
    have again := describes.tokens
    rw [scanned] at again
    cases again
    rfl
  refine ⟨_, Layout.rendered_of_tokens fun t ht => ?_, address_of_describes describes r⟩
  exact (covers t ht).rendered (other P hP _ scanned t ht) own built

/-- Two languages of which each reads a relation that the other does not. -/
def bilingual : ContentType :=
  ⟨[("en", "/[category.author.name]/[slug]"), ("fr", "/[tags.name]/[titre]")], []⟩

def bilingualQuery : PageQuery where
  filters := [Filter.notExcluded (.text "sitemap_exclude")]
  fields := ["slug", "titre", "updatedAt"]
  populate := populations ["slug", "titre", "updatedAt"]
    [("category", ["author.name"]), ("tags", ["name"])]
  orderBy := .text "id"

def article : Value := .object [("slug", .text "hello"), ("titre", .text "bonjour"),
  ("category", .object [("author", .object [("name", .text "ann")])]),
  ("tags", .series .related [.object [("name", .text "news")]])]

def articleRecord : Entries Value :=
  [("slug", .text "hello"), ("titre", .text "bonjour"), ("updatedAt", .null),
    ("localizations", .null), ("category", .mapping [("author.name", .text "ann")]),
    ("tags", .list [.mapping [("name", .text "news")]])]

theorem rendered_of_bilingual :
    (∀ P ∈ bilingual.patterns, ∃ L : Layout, L.Describes P ∧
      ∃ a, L.rendered article = .ok a ∧ address P articleRecord = .ok a) ∧
    address "/[category.author.name]/[slug]" articleRecord = .ok ⟨"/ann/hello", []⟩ ∧
    address "/[tags.name]/[titre]" articleRecord
      = .ok ⟨"/[tags.name]/bonjour", [.manyRecords "tags.name" "tags"]⟩ := by
  have asked : ofSource {} (some bilingual) (.described .null) .null = .ok bilingualQuery := rfl
  have built : Record.build article (.texts bilingualQuery.fields)
      (populateValue bilingualQuery.populate) = .ok articleRecord := by cbv
  have other : ∀ P ∈ bilingual.patterns, ∀ ts, tokens P = .ok ts →
      ∀ t ∈ ts, t.path ≠ localizations := by
    intro P hP ts scanned t ht
    have checked : ∀ P ∈ bilingual.patterns, ((tokens P).toOption.all fun ts =>
        ts.all fun t => t.path ≠ localizations) = true := by decide
    have all := checked P hP
    rw [scanned] at all
    exact of_decide_eq_true (List.all_eq_true.mp all t ht)
  refine ⟨fun P hP => ?_, rfl, rfl⟩
  obtain ⟨⟨L, describes⟩, same⟩ := rendered_of_build asked other built P hP
  exact ⟨L, describes, same L describes⟩

end PageQuery

end Sitemap
