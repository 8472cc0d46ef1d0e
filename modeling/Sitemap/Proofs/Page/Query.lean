/-
A page query is told by the tokens of the patterns.

A query can be built exactly when all patterns scan, no token with one segment names a relation, and
the filters can be made.  Then its fields are the names of the tokens with one segment and the
standing ones, and its relations those of the other tokens beside the other language versions:
`build_eq_ok_iff`.

So the fields and the populated names of a query are apart, but for the name of the language versions,
which is populated always: `mem_keys_ofTokens`.
-/
import Sitemap.Proofs.ContentType.Aggregation
import Sitemap.Proofs.Filter.Visible

namespace Sitemap

namespace ContentType

open Pattern

variable {c : Option ContentType} {sel : Selection} {known names : List String}
  {lists : List (List Token)} {localized : Bool}

theorem fieldNames_eq_ok_iff :
    fieldNames sel localized known c = .ok names ↔
      ∃ lists, List.Forall₂ (fun P ts => tokens P = .ok ts) (patternsOf c) lists ∧
        Free known lists.flatten ∧
        names = distinct (lists.flatten.filterMap sel.pick ++ standingFields sel localized) := by
  cases c with
  | some c => exact fieldNames_iff
  | none =>
    constructor
    · intro h
      cases h
      have free : Free known ([] : List (List Token)).flatten := fun _ mem => nomatch mem
      exact ⟨[], .nil, free, rfl⟩
    · rintro ⟨lists, scans, -, rfl⟩
      cases scans
      rfl

theorem relationFields_of_scans
    (scans : List.Forall₂ (fun P ts => tokens P = .ok ts) (patternsOf c) lists)
    (free : Free known lists.flatten) :
    relationFields known c = .ok (relationsNamed lists.flatten) := by
  cases c with
  | some c => exact relationFields_iff.mpr ⟨lists, scans, fun _ => free, rfl⟩
  | none =>
    cases scans
    rfl

theorem mem_flatten_of_scans {Ps : List String} {P : String} {ts : List Token} {t : Token}
    (scans : List.Forall₂ (fun P ts => tokens P = .ok ts) Ps lists)
    (hP : P ∈ Ps) (scanned : tokens P = .ok ts) (ht : t ∈ ts) : t ∈ lists.flatten := by
  obtain ⟨ts', mem, again⟩ := exists_of_mapM (mapM_of_forall₂ scans) hP
  obtain rfl := Except.ok.inj (scanned.symm.trans again)
  exact List.mem_flatten.mpr ⟨ts, mem, ht⟩

theorem exists_pattern_of_mem {Ps : List String} {t : Token}
    (scans : List.Forall₂ (fun P ts => tokens P = .ok ts) Ps lists) (ht : t ∈ lists.flatten) :
    ∃ P ∈ Ps, ∃ ts, tokens P = .ok ts ∧ t ∈ ts := by
  induction scans with
  | nil => cases ht
  | @cons P ts _ _ scanned _ ih =>
    rcases List.mem_append.mp ht with here | later
    · exact ⟨P, List.mem_cons_self, ts, scanned, here⟩
    · obtain ⟨P, hP, found⟩ := ih later
      exact ⟨P, List.mem_cons_of_mem _ hP, found⟩

theorem tokens_of_scans {Ps : List String} {P : String}
    (scans : List.Forall₂ (fun P ts => tokens P = .ok ts) Ps lists) (hP : P ∈ Ps) : ∃ ts, tokens P = .ok ts := by
  obtain ⟨ts, -, scanned⟩ := exists_of_mapM (mapM_of_forall₂ scans) hP
  exact ⟨ts, scanned⟩

theorem get?_relationsNamed {r : String} {ts : List Token} (h : r ∈ namedRelations ts) :
    Entries.get? r (relationsNamed ts) = some (distinct (namesBelow r ts)) := by
  have own : (Entries.keys (relationsNamed ts)).Nodup := by
    rw [keys_relationsNamed]
    exact nodup_distinct _
  exact Entries.get?_of_mem own (mem_relationsNamed.mpr ⟨h, rfl⟩)

end ContentType

namespace PageQuery

open Pattern ContentType

variable {s : Settings} {c : Option ContentType} {t : Traits} {pageId : Value} {q : PageQuery}

/-! ## Populated names -/

section

variable (fields : List String) (relations : Entries (List String))

theorem nodup_populations : (Entries.keys (populations fields relations)).Nodup :=
  Entries.nodup_keys_merge (List.nodup_cons.mpr ⟨by simp, List.nodup_nil⟩)

theorem mem_keys_populations {n : String} :
    n ∈ Entries.keys (populations fields relations) ↔
      n = localizations ∨ n ∈ Entries.keys relations := by
  unfold populations
  rw [Entries.mem_keys_merge, Entries.keys_map]
  exact or_congr_left List.mem_singleton

/-- A relation of the patterns is populated with what they read of it. -/
theorem get?_populations_of_some {r : String} {names : List String}
    (own : (Entries.keys relations).Nodup) (h : Entries.get? r relations = some names) :
    Entries.get? r (populations fields relations) = some (.fields names) := by
  unfold populations
  rw [Entries.get?_merge (by rw [Entries.keys_map]; exact own), Entries.get?_map, h]
  rfl

end

/-! ## The query of some tokens -/

/-- The fields of the page that tokens read, and the standing ones. -/
def pageFields (localized : Bool) (ts : List Token) : List String :=
  distinct (ownNames ts ++ standingFields { topLevel := true } localized)

/-- The query of the tokens of all patterns, with filters that are made without them. -/
def ofTokens (s : Settings) (localized : Bool) (filters : Filter.Spec) (ts : List Token) : PageQuery where
  filters := filters
  fields := pageFields localized ts
  populate := populations (pageFields localized ts) (relationsNamed ts)
  orderBy := s.orderBy

theorem build_eq_ok_iff :
    build s c t pageId = .ok q ↔
      ∃ lists filters, List.Forall₂ (fun P ts => tokens P = .ok ts) (patternsOf c) lists ∧
        Free t.relationNames lists.flatten ∧
        Filter.visible s t (Filter.givenDrafts s c) pageId = .ok filters ∧
        q = ofTokens s t.localized.truthy filters lists.flatten := by
  have named (lists : List (List Token)) : distinct (lists.flatten.filterMap
      (Selection.pick { topLevel := true }) ++ standingFields { topLevel := true }
        t.localized.truthy) = pageFields t.localized.truthy lists.flatten := by
    rw [filterMap_pick_topLevel]
    rfl
  constructor
  · intro h
    have filters := Filter.visible_of_build h
    unfold build at h
    obtain ⟨fields, made, h⟩ := exists_of_bind h
    obtain ⟨relations, related, h⟩ := exists_of_bind h
    obtain ⟨_, -, h⟩ := exists_of_bind h
    cases h
    obtain ⟨lists, scans, free, rfl⟩ := fieldNames_eq_ok_iff.mp (ok_of_mapError made)
    obtain rfl := Except.ok.inj
      ((ok_of_mapError related).symm.trans (relationFields_of_scans scans free))
    refine ⟨lists, _, scans, free, filters, ?_⟩
    rw [named]
    rfl
  · rintro ⟨lists, filters, scans, free, made, rfl⟩
    have fields : fieldNames { topLevel := true } t.localized.truthy t.relationNames c
        = .ok (pageFields t.localized.truthy lists.flatten) := by
      rw [fieldNames_eq_ok_iff.mpr ⟨lists, scans, free, rfl⟩, named]
    unfold build
    rw [fields, relationFields_of_scans scans free]
    show ((Filter.visible s t (Filter.givenDrafts s c) pageId).mapError Failure.shape >>= _) = _
    rw [made]
    rfl

section

variable {localized : Bool} {filters : Filter.Spec} {ts : List Token} {n r f : String}

theorem mem_fields_ofTokens :
    n ∈ (ofTokens s localized filters ts).fields ↔
      n ∈ ownNames ts ∨ (localized = true ∧ n = localeField) ∨ n = updatedAtField := by
  show n ∈ distinct (ownNames ts ++ ((if localized then [localeField] else []) ++ _)) ↔ _
  rw [mem_distinct, List.mem_append, List.mem_append]
  cases localized <;> simp

theorem nodup_keys_ofTokens :
    (Entries.keys (ofTokens s localized filters ts).populate).Nodup :=
  nodup_populations _ _

theorem mem_keys_ofTokens :
    n ∈ Entries.keys (ofTokens s localized filters ts).populate ↔
      n = localizations ∨ n ∈ namedRelations ts := by
  show n ∈ Entries.keys (populations _ _) ↔ _
  rw [mem_keys_populations, keys_relationsNamed, mem_distinct]

theorem get?_ofTokens (h : r ∈ namedRelations ts) :
    Entries.get? r (ofTokens s localized filters ts).populate
      = some (.fields (distinct (namesBelow r ts))) := by
  apply get?_populations_of_some
  · rw [keys_relationsNamed]
    exact nodup_distinct _
  · exact get?_relationsNamed h

end

end PageQuery

end Sitemap
