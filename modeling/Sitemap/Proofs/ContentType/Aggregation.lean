/-
What a content type reads is what the tokens of its patterns name, all languages together.

The tokens of all patterns, in the order of the languages, decide everything: the fields of the page
are the names of the tokens with one segment, the relations are the first segments of the others, and
the fields of a relation are what follows it in any language.  `FirstSeen` says that each is listed
once, in the order in which it first occurs.  Names that are known to be relations decide only whether
there is an answer: `reads_exactly`.

The proof separates the two questions.  `fieldsRead_iff` says when there is an answer, which does not
depend on the selection, and what it is, which does not depend on the known names.
-/
import Sitemap.ContentType.Reads
import Sitemap.Proofs.Outcome

namespace Sitemap

/-- What occurs in `all`, each once, in the order of first occurrence. -/
structure FirstSeen (names all : List String) : Prop where
  mem : ∀ n, n ∈ names ↔ n ∈ all
  nodup : names.Nodup
  ordered : names.Pairwise fun a b => all.idxOf a < all.idxOf b

theorem pairwise_idxOf_distinct (all : List String) :
    (distinct all).Pairwise fun a b => all.idxOf a < all.idxOf b := by
  induction all with
  | nil => exact .nil
  | cons a all ih =>
    have later {b : String} (h : b ≠ a) : (a :: all).idxOf b = all.idxOf b + 1 := by
      rw [List.idxOf_cons, beq_false_of_ne h.symm]
      rfl
    refine List.pairwise_cons.mpr ⟨fun b hb => ?_, ?_⟩
    · have ne : b ≠ a := by simpa using (List.mem_filter.mp hb).2
      rw [later ne, List.idxOf_cons_self]
      exact Nat.succ_pos _
    · refine (ih.sublist List.filter_sublist).imp_of_mem fun {b c} hb hc before => ?_
      have hb : b ≠ a := by simpa using (List.mem_filter.mp hb).2
      have hc : c ≠ a := by simpa using (List.mem_filter.mp hc).2
      rw [later hb, later hc]
      exact Nat.succ_lt_succ before

theorem firstSeen_distinct (all : List String) : FirstSeen (distinct all) all :=
  ⟨fun _ => mem_distinct, nodup_distinct all, pairwise_idxOf_distinct all⟩

theorem distinct_append_congr (as : List String) {bs cs : List String}
    (h : distinct bs = distinct cs) : distinct (as ++ bs) = distinct (as ++ cs) := by
  rw [distinct_append, distinct_append, h]

theorem distinct_flatten_distinct (parts : List (List String)) (bs : List String) :
    distinct ((parts.map distinct).flatten ++ bs) = distinct (parts.flatten ++ bs) := by
  induction parts with
  | nil => rfl
  | cons part parts ih =>
    rw [List.map_cons, List.flatten_cons, List.flatten_cons, List.append_assoc, List.append_assoc,
      distinct_distinct_append, distinct_append_congr part ih]

theorem distinct_filterMap_flatten {α : Type} (f : α → Option String) (lists : List (List α))
    (bs : List String) :
    distinct ((lists.map fun as => distinct (as.filterMap f)).flatten ++ bs)
      = distinct (lists.flatten.filterMap f ++ bs) := by
  have parts := distinct_flatten_distinct (lists.map (List.filterMap f)) bs
  rw [List.map_map] at parts
  rw [List.filterMap_flatten]
  exact parts

namespace Pattern

/-- The names of the tokens with one segment. -/
def ownNames (ts : List Token) : List String :=
  (ts.filter fun t => t.rest.isEmpty).map Token.head

/-- The first segments of the tokens with several. -/
def namedRelations (ts : List Token) : List String :=
  (ts.filter fun t => !t.rest.isEmpty).map Token.head

/-- What the tokens with several segments have behind the first one, when that is `r`. -/
def namesBelow (r : String) (ts : List Token) : List String :=
  (ts.filter fun t => !t.rest.isEmpty && t.head == r).map fun t => Text.join "." t.rest

theorem filterMap_pick_topLevel (ts : List Token) :
    ts.filterMap (Selection.pick { topLevel := true }) = ownNames ts := by
  induction ts with
  | nil => rfl
  | cons t ts ih =>
    obtain ⟨head, rest⟩ := t
    cases rest with
    | nil => exact congrArg (head :: ·) ih
    | cons s rest => exact ih

theorem filterMap_pick_relation (r : String) (ts : List Token) :
    ts.filterMap (Selection.pick { relation := some r }) = namesBelow r ts := by
  induction ts with
  | nil => rfl
  | cons t ts ih =>
    obtain ⟨head, rest⟩ := t
    cases rest with
    | nil => exact ih
    | cons s rest =>
      have here : Selection.pick { relation := some r } ⟨head, s :: rest⟩
          = if head = r then some (Text.join "." (s :: rest)) else none := rfl
      by_cases same : head = r
      · rw [if_pos same] at here
        rw [List.filterMap_cons_some here, ih]
        simp [namesBelow, same]
      · rw [if_neg same] at here
        rw [List.filterMap_cons_none here, ih]
        simp [namesBelow, same]

theorem filterMap_relation? (ts : List Token) :
    ts.filterMap Token.relation? = namedRelations ts := by
  induction ts with
  | nil => rfl
  | cons t ts ih =>
    obtain ⟨head, rest⟩ := t
    cases rest with
    | nil => exact ih
    | cons s rest => exact congrArg (head :: ·) ih

theorem mem_ownNames {n : String} {ts : List Token} : n ∈ ownNames ts ↔ ⟨n, []⟩ ∈ ts := by
  unfold ownNames
  constructor
  · intro h
    obtain ⟨⟨head, rest⟩, mem, rfl⟩ := List.mem_map.mp h
    obtain ⟨ht, single⟩ := List.mem_filter.mp mem
    obtain rfl : rest = [] := List.isEmpty_iff.mp single
    exact ht
  · intro h
    exact List.mem_map.mpr ⟨⟨n, []⟩, List.mem_filter.mpr ⟨h, rfl⟩, rfl⟩

theorem mem_namesBelow {r f : String} {ts : List Token} :
    f ∈ namesBelow r ts ↔
      ∃ s rest, (⟨r, s :: rest⟩ : Token) ∈ ts ∧ f = Text.join "." (s :: rest) := by
  unfold namesBelow
  constructor
  · intro h
    obtain ⟨⟨head, rest⟩, mem, rfl⟩ := List.mem_map.mp h
    obtain ⟨ht, kind⟩ := List.mem_filter.mp mem
    cases rest with
    | nil => cases kind
    | cons s rest =>
      obtain rfl : head = r := by simpa using kind
      exact ⟨s, rest, ht, rfl⟩
  · rintro ⟨s, rest, h, rfl⟩
    exact List.mem_map.mpr ⟨⟨r, s :: rest⟩, List.mem_filter.mpr ⟨h, by simp⟩, rfl⟩

theorem mem_namedRelations {r : String} {ts : List Token} :
    r ∈ namedRelations ts ↔ ∃ f, f ∈ namesBelow r ts := by
  constructor
  · intro h
    obtain ⟨⟨head, rest⟩, mem, rfl⟩ := List.mem_map.mp h
    obtain ⟨ht, several⟩ := List.mem_filter.mp mem
    cases rest with
    | nil => cases several
    | cons s rest => exact ⟨_, mem_namesBelow.mpr ⟨s, rest, ht, rfl⟩⟩
  · rintro ⟨f, h⟩
    obtain ⟨s, rest, ht, -⟩ := mem_namesBelow.mp h
    exact List.mem_map.mpr ⟨⟨r, s :: rest⟩, List.mem_filter.mpr ⟨ht, rfl⟩, rfl⟩

/-- Without a selection every token is named by its whole path. -/
theorem mem_filterMap_pick {n : String} {ts : List Token} :
    n ∈ ts.filterMap (Selection.pick {}) ↔
      n ∈ ownNames ts ∨ ∃ r f, f ∈ namesBelow r ts ∧ n = r ++ "." ++ f := by
  rw [List.mem_filterMap]
  constructor
  · rintro ⟨⟨head, rest⟩, ht, picked⟩
    cases rest with
    | nil =>
      obtain rfl : head = n := Option.some.inj picked
      exact .inl (mem_ownNames.mpr ht)
    | cons s rest =>
      have path : head ++ "." ++ Text.join "." (s :: rest) = n := Option.some.inj picked
      exact .inr ⟨head, _, mem_namesBelow.mpr ⟨s, rest, ht, rfl⟩, path.symm⟩
  · rintro (own | ⟨r, f, below, rfl⟩)
    · exact ⟨⟨n, []⟩, mem_ownNames.mp own, rfl⟩
    · obtain ⟨s, rest, ht, rfl⟩ := mem_namesBelow.mp below
      exact ⟨⟨r, s :: rest⟩, ht, rfl⟩

theorem not_isBare_iff {names : List String} {ts : List Token} :
    (∀ t ∈ ts, t.isBare names = false) ↔ ∀ n ∈ ownNames ts, n ∉ names := by
  constructor
  · intro h n hn named
    have free := h _ (mem_ownNames.mp hn)
    have bare : Token.isBare names ⟨n, []⟩ = names.contains n := rfl
    rw [bare, List.contains_iff_mem.mpr named] at free
    cases free
  · rintro h ⟨head, rest⟩ ht
    cases rest with
    | nil =>
      show names.contains head = false
      have free := h head (mem_ownNames.mpr ht)
      simpa using free
    | cons s rest => rfl

/-- A pattern that scans is answered for unless one of its tokens is a bare relation. -/
theorem fields_eq_ok_iff {sel : Selection} {known : List String} {pattern : String}
    {ts : List Token} {names : List String} (scanned : tokens pattern = .ok ts) :
    fields sel known pattern = .ok names ↔
      (∀ n ∈ ownNames ts, n ∉ known ++ Token.relations ts) ∧
        names = distinct (ts.filterMap sel.pick) := by
  unfold fields
  rw [scanned, ← not_isBare_iff]
  show fieldsOf sel known pattern ts = .ok names ↔ _
  unfold fieldsOf
  cases found : ts.find? (Token.isBare (known ++ Token.relations ts)) with
  | some t =>
    refine ⟨fun h => (by cases h), fun ⟨free, _⟩ => ?_⟩
    have bare := List.find?_some found
    rw [free t (List.mem_of_find?_eq_some found)] at bare
    cases bare
  | none =>
    have free : ∀ t ∈ ts, t.isBare (known ++ Token.relations ts) = false := fun t ht => by
      simpa using List.find?_eq_none.mp found t ht
    exact ⟨fun h => ⟨free, (Except.ok.inj h).symm⟩, fun h => congrArg Except.ok h.2.symm⟩

theorem mapM_fields_eq_ok_iff {sel : Selection} {known patterns : List String}
    {lists : List (List Token)} {names : List (List String)}
    (scans : List.Forall₂ (fun P ts => tokens P = .ok ts) patterns lists) :
    patterns.mapM (fields sel known) = .ok names ↔
      (∀ ts ∈ lists, ∀ n ∈ ownNames ts, n ∉ known ++ Token.relations ts) ∧
        names = lists.map fun ts => distinct (ts.filterMap sel.pick) := by
  induction scans generalizing names with
  | nil =>
    refine ⟨fun h => ?_, fun ⟨_, e⟩ => by rw [e]; rfl⟩
    cases h
    exact ⟨by simp, rfl⟩
  | cons scanned _ ih =>
    rw [List.mapM_cons]
    constructor
    · intro h
      obtain ⟨first, here, h⟩ := exists_of_bind h
      obtain ⟨others, rest, h⟩ := exists_of_bind h
      cases h
      obtain ⟨free, rfl⟩ := (fields_eq_ok_iff scanned).mp here
      obtain ⟨frees, rfl⟩ := ih.mp rest
      exact ⟨List.forall_mem_cons.mpr ⟨free, frees⟩, rfl⟩
    · rintro ⟨free, rfl⟩
      obtain ⟨here, rest⟩ := List.forall_mem_cons.mp free
      rw [(fields_eq_ok_iff scanned).mpr ⟨here, rfl⟩, ih.mpr ⟨rest, rfl⟩]
      rfl

end Pattern

namespace ContentType

open Pattern

variable {c : ContentType} {sel : Selection} {known names : List String}
  {lists : List (List Token)}

/-- The tokens of the patterns, pattern by pattern. -/
def Scans (c : ContentType) (lists : List (List Token)) : Prop :=
  List.Forall₂ (fun P ts => tokens P = .ok ts) c.patterns lists

/-- No token with one segment is known as a relation, or named as one by another token. -/
def Free (known : List String) (ts : List Token) : Prop :=
  ∀ n ∈ ownNames ts, n ∉ known ∧ n ∉ namedRelations ts

theorem scans_unique {Ps : List String} {lists' : List (List Token)}
    (scans : List.Forall₂ (fun P ts => tokens P = .ok ts) Ps lists)
    (scans' : List.Forall₂ (fun P ts => tokens P = .ok ts) Ps lists') : lists = lists' :=
  Except.ok.inj ((mapM_of_forall₂ scans).symm.trans (mapM_of_forall₂ scans'))

theorem relationsRead_iff {found : List String} :
    c.relationsRead = .ok found ↔
      ∃ lists, c.Scans lists ∧ found = (lists.map Token.relations).flatten := by
  have all : c.patterns.mapM relations = (c.patterns.mapM tokens).map (List.map Token.relations) :=
    mapM_map tokens Token.relations c.patterns
  unfold relationsRead
  rw [all]
  constructor
  · intro h
    obtain ⟨rels, read, rfl⟩ := exists_of_map h
    obtain ⟨lists, scanned, rfl⟩ := exists_of_map read
    exact ⟨lists, forall₂_of_mapM scanned, rfl⟩
  · rintro ⟨lists, scans, rfl⟩
    rw [mapM_of_forall₂ scans]
    rfl

theorem mem_relations {r : String} :
    r ∈ (lists.map Token.relations).flatten ↔ r ∈ namedRelations lists.flatten := by
  unfold Token.relations
  rw [← filterMap_relation?, List.filterMap_flatten]
  simp only [List.mem_flatten, List.mem_map, exists_exists_and_eq_and, mem_distinct]

/-- The relations that one pattern names are among those of all. -/
theorem free_iff :
    (∀ ts ∈ lists, ∀ n ∈ ownNames ts,
        n ∉ known ++ (lists.map Token.relations).flatten ++ Token.relations ts) ↔
      Free known lists.flatten := by
  have own {n : String} : n ∈ ownNames lists.flatten ↔ ∃ ts ∈ lists, n ∈ ownNames ts := by
    rw [mem_ownNames, List.mem_flatten]
    exact exists_congr fun ts => and_congr_right fun _ => mem_ownNames.symm
  constructor
  · intro h n hn
    obtain ⟨ts, hts, mem⟩ := own.mp hn
    have outside := h ts hts n mem
    rw [List.append_assoc, List.mem_append, List.mem_append, mem_relations] at outside
    exact ⟨fun e => outside (.inl e), fun e => outside (.inr (.inl e))⟩
  · intro h ts hts n hn
    obtain ⟨unknown, unnamed⟩ := h n (own.mpr ⟨ts, hts, hn⟩)
    rw [List.append_assoc, List.mem_append, List.mem_append, mem_relations]
    rintro (e | e | e)
    · exact unknown e
    · exact unnamed e
    · exact unnamed (mem_relations.mp (List.mem_flatten.mpr ⟨_, List.mem_map_of_mem hts, e⟩))

theorem fieldsRead_iff :
    fieldsRead sel known c = .ok names ↔
      ∃ lists, c.Scans lists ∧ Free known lists.flatten ∧
        names = (lists.map fun ts => distinct (ts.filterMap sel.pick)).flatten := by
  unfold fieldsRead
  constructor
  · intro h
    obtain ⟨found, read, h⟩ := exists_of_bind h
    obtain ⟨each, made, h⟩ := exists_of_bind h
    cases h
    obtain ⟨lists, scans, rfl⟩ := relationsRead_iff.mp read
    obtain ⟨free, rfl⟩ := (mapM_fields_eq_ok_iff scans).mp made
    exact ⟨lists, scans, free_iff.mp free, rfl⟩
  · rintro ⟨lists, scans, free, rfl⟩
    rw [relationsRead_iff.mpr ⟨lists, scans, rfl⟩]
    show (c.patterns.mapM (fields sel _) >>= _) = _
    rw [(mapM_fields_eq_ok_iff scans).mpr ⟨free_iff.mpr free, rfl⟩]
    rfl

theorem fieldNames_iff {localized : Bool} :
    fieldNames sel localized known (some c) = .ok names ↔
      ∃ lists, c.Scans lists ∧ Free known lists.flatten ∧
        names = distinct (lists.flatten.filterMap sel.pick ++ standingFields sel localized) := by
  constructor
  · intro h
    obtain ⟨read, fields, rfl⟩ := exists_of_map h
    obtain ⟨lists, scans, free, rfl⟩ := fieldsRead_iff.mp fields
    exact ⟨lists, scans, free, distinct_filterMap_flatten _ _ _⟩
  · rintro ⟨lists, scans, free, rfl⟩
    show (fieldsRead sel known c).map _ = _
    rw [fieldsRead_iff.mpr ⟨lists, scans, free, rfl⟩, ← distinct_filterMap_flatten]
    rfl

/-- The relations that are named, each with what is read of it. -/
def relationsNamed (ts : List Token) : Entries (List String) :=
  (distinct (namedRelations ts)).map fun r => (r, distinct (namesBelow r ts))

theorem relationEntry_eq (scans : c.Scans lists) (free : Free known lists.flatten) (r : String) :
    relationEntry known c r = .ok (r, distinct (namesBelow r lists.flatten)) := by
  unfold relationEntry
  rw [fieldNames_iff.mpr ⟨lists, scans, free, rfl⟩, filterMap_pick_relation]
  show Except.ok (r, distinct (namesBelow r lists.flatten ++ [])) = _
  rw [List.append_nil]

theorem mapM_relationEntry (scans : c.Scans lists)
    (free : namedRelations lists.flatten ≠ [] → Free known lists.flatten) :
    (distinct (namedRelations lists.flatten)).mapM (relationEntry known c)
      = .ok (relationsNamed lists.flatten) := by
  apply mapM_ok
  intro r hr
  exact relationEntry_eq scans (free (List.ne_nil_of_mem (mem_distinct.mp hr))) r

theorem distinct_relations (lists : List (List Token)) :
    distinct (lists.map Token.relations).flatten = distinct (namedRelations lists.flatten) := by
  have parts := distinct_filterMap_flatten Token.relation? lists []
  rw [List.append_nil, List.append_nil, filterMap_relation?] at parts
  exact parts

/-- Without a relation no fields are read, and nothing has to be free. -/
theorem relationFields_iff {relations : Entries (List String)} :
    relationFields known (some c) = .ok relations ↔
      ∃ lists, c.Scans lists ∧ (namedRelations lists.flatten ≠ [] → Free known lists.flatten) ∧
        relations = relationsNamed lists.flatten := by
  constructor
  · intro h
    obtain ⟨found, read, each⟩ := exists_of_bind h
    obtain ⟨lists, scans, rfl⟩ := relationsRead_iff.mp read
    rw [distinct_relations] at each
    have free (some : namedRelations lists.flatten ≠ []) : Free known lists.flatten := by
      obtain ⟨r, hr⟩ := List.exists_mem_of_ne_nil _ some
      obtain ⟨entry, -, made⟩ := exists_of_mapM each (mem_distinct.mpr hr)
      obtain ⟨fields, read, -⟩ := exists_of_map made
      obtain ⟨lists', scans', free, -⟩ := fieldNames_iff.mp read
      rwa [scans_unique scans scans']
    exact ⟨lists, scans, free, Except.ok.inj (each.symm.trans (mapM_relationEntry scans free))⟩
  · rintro ⟨lists, scans, free, rfl⟩
    show (c.relationsRead >>= fun found => (distinct found).mapM (relationEntry known c)) = _
    rw [relationsRead_iff.mpr ⟨lists, scans, rfl⟩]
    show (distinct _).mapM (relationEntry known c) = _
    rw [distinct_relations]
    exact mapM_relationEntry scans free

/-! ## Known names written as a value, and no content type -/

/-- The patterns of a content type, none when there is none. -/
def patternsOf (c : Option ContentType) : List String := c.elim [] patterns

theorem readsRelation_of_scans {Ps : List String}
    (scans : List.Forall₂ (fun P ts => tokens P = .ok ts) Ps lists) :
    ∃ looked, readsRelation Ps = .ok looked := by
  induction scans with
  | nil => exact ⟨false, rfl⟩
  | @cons P ts _ _ scanned _ ih =>
    obtain ⟨looked, rest⟩ := ih
    have here : relations P = .ok (Token.relations ts) := by
      unfold relations
      rw [scanned]
      rfl
    unfold readsRelation
    rw [here]
    by_cases none : Token.relations ts = []
    · exact ⟨looked, (if_pos none).trans rest⟩
    · exact ⟨true, if_neg none⟩

theorem fieldNamesKnowing_some {value : Value} {localized : Bool}
    (h : value.knownNames = .ok known) :
    fieldNamesKnowing sel localized value (some c)
      = (fieldNames sel localized known (some c)).mapError .pattern := by
  show ((value.knownNames.mapError Failure.shape) >>= _) = _
  rw [h]
  rfl

theorem relationFieldsKnowing_some {value : Value} (h : value.knownNames = .ok known)
    (scans : c.Scans lists) (free : Free known lists.flatten) :
    relationFieldsKnowing value (some c) = .ok (relationsNamed lists.flatten) := by
  obtain ⟨looked, reads⟩ := readsRelation_of_scans scans
  show ((readsRelation c.patterns).mapError Failure.pattern >>= _) = _
  rw [reads]
  -- Without a look at the known names none are taken, which leaves the tokens free as well.
  cases looked with
  | false =>
    have free' : Free [] lists.flatten := fun n hn => ⟨by simp, (free n hn).2⟩
    show (relationFields [] (some c)).mapError Failure.pattern = _
    rw [relationFields_iff.mpr ⟨lists, scans, fun _ => free', rfl⟩]
    rfl
  | true =>
    show ((value.knownNames.mapError Failure.shape) >>= _) = _
    rw [h]
    show (relationFields known (some c)).mapError Failure.pattern = _
    rw [relationFields_iff.mpr ⟨lists, scans, fun _ => free, rfl⟩]
    rfl

/-- An answer for one selection tells the tokens, and the answers for all others. -/
theorem answers_of_fieldNamesKnowing {value : Value} {localized : Bool} {c : Option ContentType}
    (h : fieldNamesKnowing sel localized value c = .ok names) :
    ∃ lists, List.Forall₂ (fun P ts => tokens P = .ok ts) (patternsOf c) lists ∧
      (∀ sel localized, fieldNamesKnowing sel localized value c
        = .ok (distinct (lists.flatten.filterMap sel.pick ++ standingFields sel localized))) ∧
      relationFieldsKnowing value c = .ok (relationsNamed lists.flatten) := by
  cases c with
  | none => exact ⟨[], .nil, fun _ _ => rfl, rfl⟩
  | some c =>
    obtain ⟨known, looked, h⟩ := exists_of_bind h
    have looked : value.knownNames = .ok known := ok_of_mapError looked
    obtain ⟨lists, scans, free, -⟩ := fieldNames_iff.mp (ok_of_mapError h)
    refine ⟨lists, scans, fun sel localized => ?_, relationFieldsKnowing_some looked scans free⟩
    rw [fieldNamesKnowing_some looked, fieldNames_iff.mpr ⟨lists, scans, free, rfl⟩]
    rfl

theorem eq_of_fieldNamesKnowing {value : Value} {localized : Bool} {c : Option ContentType}
    (scans : List.Forall₂ (fun P ts => tokens P = .ok ts) (patternsOf c) lists)
    (h : fieldNamesKnowing sel localized value c = .ok names) :
    names = distinct (lists.flatten.filterMap sel.pick ++ standingFields sel localized) := by
  obtain ⟨lists', scans', answers, -⟩ := answers_of_fieldNamesKnowing h
  rw [answers, scans_unique scans' scans] at h
  exact (Except.ok.inj h).symm

theorem eq_of_relationFieldsKnowing {value : Value} {c : Option ContentType}
    {relations : Entries (List String)}
    (scans : List.Forall₂ (fun P ts => tokens P = .ok ts) (patternsOf c) lists)
    (h : relationFieldsKnowing value c = .ok relations) :
    relations = relationsNamed lists.flatten := by
  cases c with
  | none =>
    cases scans
    exact (Except.ok.inj h).symm
  | some c =>
    obtain ⟨looked, -, h⟩ := exists_of_bind h
    have answered : ∃ known, relationFields known (some c) = .ok relations := by
      cases looked with
      | false => exact ⟨[], ok_of_mapError h⟩
      | true =>
        have h : ((value.knownNames.mapError Failure.shape) >>= fun known =>
            (relationFields known (some c)).mapError Failure.pattern) = .ok relations := h
        obtain ⟨known, -, h⟩ := exists_of_bind h
        exact ⟨known, ok_of_mapError h⟩
    obtain ⟨known, h⟩ := answered
    obtain ⟨lists', scans', -, rfl⟩ := relationFields_iff.mp h
    rw [scans_unique scans' scans]

/-! ## The main statement -/

/-- What is read, said of the tokens `ts` of all patterns in the order of the languages. -/
structure ReadsExactly (known : Value) (c : Option ContentType) (ts : List Token)
    (relations : Entries (List String)) : Prop where
  /-- The fields of the page: the names of the tokens with one segment, then the standing ones. -/
  topLevel : ∀ localized, ∃ names,
    fieldNamesKnowing { topLevel := true } localized known c = .ok names ∧
      FirstSeen names (ownNames ts ++ (if localized then ["locale"] else []) ++ ["updatedAt"])
  related : relationFieldsKnowing known c = .ok relations
  keys : FirstSeen (Entries.keys relations) (namedRelations ts)
  below : ∀ r fields, (r, fields) ∈ relations → FirstSeen fields (namesBelow r ts) ∧ fields ≠ []
  /-- Without a selection, the fields of the page and those of every relation. -/
  all : ∀ localized, ∃ names, fieldNamesKnowing {} localized known c = .ok names ∧
    ∀ n, n ∈ names ↔ n ∈ ownNames ts ∨
      ∃ r fields f, (r, fields) ∈ relations ∧ f ∈ fields ∧ n = r ++ "." ++ f

theorem mem_relationsNamed {r : String} {fields : List String} {ts : List Token} :
    (r, fields) ∈ relationsNamed ts ↔
      r ∈ namedRelations ts ∧ fields = distinct (namesBelow r ts) := by
  unfold relationsNamed
  constructor
  · intro h
    obtain ⟨r, hr, e⟩ := List.mem_map.mp h
    cases e
    exact ⟨mem_distinct.mp hr, rfl⟩
  · rintro ⟨hr, rfl⟩
    exact List.mem_map.mpr ⟨r, mem_distinct.mpr hr, rfl⟩

theorem keys_relationsNamed (ts : List Token) :
    Entries.keys (relationsNamed ts) = distinct (namedRelations ts) := by
  unfold Entries.keys relationsNamed
  rw [List.map_map]
  exact List.map_id _

/-- What is read without a selection, in terms of the relations that are read. -/
theorem mem_unselected_iff (ts : List Token) (n : String) :
    n ∈ ts.filterMap (Selection.pick {}) ↔
      n ∈ ownNames ts ∨
        ∃ r fields f, (r, fields) ∈ relationsNamed ts ∧ f ∈ fields ∧ n = r ++ "." ++ f := by
  rw [mem_filterMap_pick]
  apply or_congr_right
  constructor
  · rintro ⟨r, f, hf, e⟩
    have named : r ∈ namedRelations ts := mem_namedRelations.mpr ⟨f, hf⟩
    exact ⟨r, _, f, mem_relationsNamed.mpr ⟨named, rfl⟩, mem_distinct.mpr hf, e⟩
  · rintro ⟨r, fields, f, mem, hf, e⟩
    obtain ⟨-, rfl⟩ := mem_relationsNamed.mp mem
    exact ⟨r, f, mem_distinct.mp hf, e⟩

theorem readsExactly_of_answers {known : Value} {c : Option ContentType} {ts : List Token}
    (answers : ∀ sel localized, fieldNamesKnowing sel localized known c
      = .ok (distinct (ts.filterMap sel.pick ++ standingFields sel localized)))
    (related : relationFieldsKnowing known c = .ok (relationsNamed ts)) :
    ReadsExactly known c ts (relationsNamed ts) where
  topLevel := by
    intro localized
    refine ⟨_, answers { topLevel := true } localized, ?_⟩
    rw [filterMap_pick_topLevel, List.append_assoc]
    exact firstSeen_distinct _
  related := related
  keys := by
    rw [keys_relationsNamed]
    exact firstSeen_distinct _
  below := by
    intro r fields mem
    obtain ⟨named, rfl⟩ := mem_relationsNamed.mp mem
    obtain ⟨f, hf⟩ := mem_namedRelations.mp named
    exact ⟨firstSeen_distinct _, List.ne_nil_of_mem (mem_distinct.mpr hf)⟩
  all := by
    intro localized
    refine ⟨_, answers {} localized, fun n => ?_⟩
    show n ∈ distinct (ts.filterMap (Selection.pick {}) ++ []) ↔ _
    rw [List.append_nil, mem_distinct]
    exact mem_unselected_iff ts n

/-- Once there is an answer for any selection, everything that is read is told by the tokens of the
patterns, and other known names that have an answer have the same. -/
theorem reads_exactly {sel : Selection} {localized : Bool} {known : Value}
    {c : Option ContentType} {names : List String}
    (h : fieldNamesKnowing sel localized known c = .ok names) :
    ∃ lists relations, List.Forall₂ (fun P ts => tokens P = .ok ts) (patternsOf c) lists ∧
      ReadsExactly known c lists.flatten relations ∧
      ∀ other : Value,
        (∀ relations', relationFieldsKnowing other c = .ok relations' → relations' = relations) ∧
        ∀ sel localized names names', fieldNamesKnowing sel localized known c = .ok names →
          fieldNamesKnowing sel localized other c = .ok names' → names' = names := by
  obtain ⟨lists, scans, answers, related⟩ := answers_of_fieldNamesKnowing h
  refine ⟨lists, _, scans, readsExactly_of_answers answers related, fun other => ⟨?_, ?_⟩⟩
  · intro relations' there
    exact eq_of_relationFieldsKnowing scans there
  · intro sel localized names names' here there
    rw [eq_of_fieldNamesKnowing scans here, eq_of_fieldNamesKnowing scans there]

/-- Two languages that name one relation with different fields, and a standing field as a token. -/
def news : ContentType :=
  ⟨[("en", "/[title]/[category.name]"), ("fr", "/[updatedAt]/[title]/[tags.name]/[category.slug]")],
    []⟩

theorem reads_exactly_of_news :
    fieldNamesKnowing { relation := some "category" } false (.texts ["author"]) (some news)
        = .ok ["name", "slug"] ∧
      ∃ lists, List.Forall₂ (fun P ts => tokens P = .ok ts) (patternsOf (some news)) lists ∧
        ReadsExactly (.texts ["author"]) (some news) lists.flatten
          [("category", ["name", "slug"]), ("tags", ["name"])] := by
  have asked : fieldNamesKnowing { relation := some "category" } false (.texts ["author"])
      (some news) = .ok ["name", "slug"] := rfl
  have related : relationFieldsKnowing (.texts ["author"]) (some news)
      = .ok [("category", ["name", "slug"]), ("tags", ["name"])] := rfl
  obtain ⟨lists, relations, scans, exactly, -⟩ := reads_exactly asked
  obtain rfl := Except.ok.inj (related.symm.trans exactly.related)
  exact ⟨asked, lists, scans, exactly⟩

end ContentType
end Sitemap
