/-
A field that a pattern reads by itself is not lost to a relation.

Fields and relations share the keys of a record, and the relations are put in last.  No name that a
pattern reads by itself is a relation that any pattern reads a field of, so its value stays:
`keepsField_iff_of_build`.  The one exception is the name of the other language versions, which are
put into every record: `not_keepsField_localizations`.
-/
import Mathlib
import Sitemap.Proofs.Page.Reading
import Sitemap.Proofs.Page.Record

namespace Sitemap
namespace PageQuery

open Pattern

/-- A field keeps its value: no relation is put in its place, and every record has at its name what
is read of the object. -/
structure KeepsField (q : PageQuery) (n : String) : Prop where
  unpopulated : n ∉ Entries.keys q.populate
  value : ∀ obj r, Record.build obj (.texts q.fields) (populateValue q.populate) = .ok r →
    ∃ v, Record.serialize (Record.read obj n) = .ok v ∧ Entries.get? n r = some v

variable {s : Settings} {localized : Bool} {filters : Filter.Spec} {ts : List Token} {n : String}

theorem keepsField_ofTokens {known : List String} (free : ContentType.Free known ts)
    (own : n ∈ ownNames ts) :
    (ofTokens s localized filters ts).KeepsField n ↔ n ≠ localizations := by
  constructor
  · intro kept same
    exact kept.unpopulated (mem_keys_ofTokens.mpr (.inl same))
  · intro other
    have unpopulated : n ∉ Entries.keys (ofTokens s localized filters ts).populate := by
      intro inside
      rcases mem_keys_ofTokens.mp inside with same | named
      · exact other same
      · exact (free n own).2 named
    refine ⟨unpopulated, fun obj r built => ?_⟩
    rw [← Record.keys_relationsOf_populateValue] at unpopulated
    exact Record.get?_of_build built rfl (mem_fields_ofTokens.mpr (.inl own)) unpopulated

/-- Every field that a pattern reads by itself keeps its value, unless it goes by the name of the
other language versions. -/
theorem keepsField_iff_of_build {c : ContentType} {src : Traits.Source} {pageId : Value}
    {q : PageQuery} (asked : ofSource s (some c) src pageId = .ok q) :
    ∀ P ∈ c.patterns, ∃ ts, tokens P = .ok ts ∧
      ∀ t ∈ ts, t.isRelation = false → (q.KeepsField t.field ↔ t.field ≠ localizations) := by
  obtain ⟨traits, -, built⟩ := exists_of_bind asked
  obtain ⟨lists, filters, scans, free, -, rfl⟩ := build_eq_ok_iff.mp built
  intro P hP
  obtain ⟨ts, scanned⟩ := ContentType.tokens_of_scans scans hP
  refine ⟨ts, scanned, fun t ht single => ?_⟩
  have read := ContentType.mem_flatten_of_scans scans hP scanned ht
  obtain ⟨head, rest⟩ := t
  cases rest with
  | nil => exact keepsField_ofTokens free (mem_ownNames.mpr read)
  | cons part rest => cases single

/-- A relation that is read in one language only, and a standing field as a token. -/
def almanac : ContentType :=
  ⟨[("en", "/[updatedAt]/[slug]"), ("fr", "/[category.name]/[slug]")], []⟩

theorem keepsField_of_almanac :
    ∃ q, ofSource {} (some almanac) (.described .null) .null = .ok q ∧
      q.KeepsField "updatedAt" ∧ q.KeepsField "slug" := by
  have asked : ∃ q, ofSource {} (some almanac) (.described .null) .null = .ok q := ⟨_, rfl⟩
  obtain ⟨q, asked⟩ := asked
  obtain ⟨ts, scanned, kept⟩ := keepsField_iff_of_build asked "/[updatedAt]/[slug]" (by decide)
  obtain rfl : [⟨"updatedAt", []⟩, ⟨"slug", []⟩] = ts := Except.ok.inj scanned
  refine ⟨q, asked, ?_, ?_⟩
  · exact (kept ⟨"updatedAt", []⟩ (by decide) rfl).mpr (by decide)
  · exact (kept ⟨"slug", []⟩ (by decide) rfl).mpr (by decide)

/-- A pattern that reads the name of the language versions as a field. -/
def versions : ContentType := ⟨[("en", "/[localizations]")], []⟩

def versionsQuery : PageQuery where
  filters := [Filter.notExcluded (.text "sitemap_exclude")]
  fields := ["localizations", "updatedAt"]
  populate := [("localizations", .nested ["localizations", "updatedAt"] [])]
  orderBy := .text "id"

/-- A page with the field `localizations` has a record at that place, and not the field. -/
theorem not_keepsField_localizations :
    ofSource {} (some versions) (.described .null) .null = .ok versionsQuery ∧
      tokens "/[localizations]" = .ok [⟨"localizations", []⟩] ∧
      Record.serialize (Record.read (.object [("localizations", .text "en, fr")]) "localizations")
        = .ok (.text "en, fr") ∧
      ∃ r, Record.build (.object [("localizations", .text "en, fr")])
          (.texts versionsQuery.fields) (populateValue versionsQuery.populate) = .ok r ∧
        Entries.get? "localizations" r
          = some (.mapping [("localizations", .null), ("updatedAt", .null)]) ∧
        ¬versionsQuery.KeepsField "localizations" := by
  have built : Record.build (.object [("localizations", .text "en, fr")])
      (.texts versionsQuery.fields) (populateValue versionsQuery.populate)
        = .ok [("localizations", .mapping [("localizations", .null), ("updatedAt", .null)]),
          ("updatedAt", .null)] := by cbv
  refine ⟨rfl, rfl, by cbv, _, built, rfl, ?_⟩
  intro kept
  exact kept.unpopulated (by decide)

end PageQuery
end Sitemap
