/-
What a page query reads suffices for every pattern of its content type.

The fields and relations of a query are gathered from all patterns at once.  A token with one segment
finds its field among those of the page, and no relation of any pattern goes by its name; a token
with several finds its relation with the rest of its path among the fields read of it, whichever
pattern asked for the relation first: `covers_of_ofSource`.
-/
import Sitemap.Proofs.Page.Query

namespace Sitemap

namespace PageQuery

open Pattern ContentType

/-- What a query reads suffices for a token. -/
def Covers (q : PageQuery) (t : Token) : Prop :=
  match t.relation? with
  | none => t.field ∈ q.fields ∧ (t.field ≠ localizations → t.field ∉ Entries.keys q.populate)
  | some r => ∃ names, Entries.get? r q.populate = some (.fields names) ∧ t.field ∈ names

theorem covers_ofTokens {s : Settings} {localized : Bool} {filters : Filter.Spec}
    {known : List String} {ts : List Token} (free : Free known ts) {t : Token} (ht : t ∈ ts) :
    (ofTokens s localized filters ts).Covers t := by
  obtain ⟨head, rest⟩ := t
  cases rest with
  | nil =>
    have own : head ∈ ownNames ts := mem_ownNames.mpr ht
    refine ⟨mem_fields_ofTokens.mpr (.inl own), fun other inside => ?_⟩
    rcases mem_keys_ofTokens.mp inside with same | named
    · exact other same
    · exact (free head own).2 named
  | cons part rest =>
    have below : Text.join "." (part :: rest) ∈ namesBelow head ts :=
      mem_namesBelow.mpr ⟨part, rest, ht, rfl⟩
    exact ⟨_, get?_ofTokens (mem_namedRelations.mpr ⟨_, below⟩), mem_distinct.mpr below⟩

/-- A query reads what the patterns of its content type need. -/
theorem covers_of_ofSource {s : Settings} {c : ContentType} {src : Traits.Source} {pageId : Value}
    {q : PageQuery} (h : ofSource s (some c) src pageId = .ok q) :
    (Entries.keys q.populate).Nodup ∧
      ∀ P ∈ c.patterns, ∃ ts, tokens P = .ok ts ∧ ∀ t ∈ ts, q.Covers t := by
  obtain ⟨traits, -, built⟩ := exists_of_bind h
  obtain ⟨lists, filters, scans, free, -, rfl⟩ := build_eq_ok_iff.mp built
  refine ⟨nodup_keys_ofTokens, fun P hP => ?_⟩
  obtain ⟨ts, scanned⟩ := tokens_of_scans scans hP
  refine ⟨ts, scanned, fun t ht => ?_⟩
  exact covers_ofTokens free (mem_flatten_of_scans scans hP scanned ht)

end PageQuery

end Sitemap
