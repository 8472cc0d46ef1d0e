/-
When and where what the patterns read is refused.

What is read of a content type is refused for two reasons: a pattern does not scan, or one of its
tokens names a relation by itself.  `Refuses` says which error that is, pattern by pattern and group
by group: patterns that do not scan come first, and a bare relation is blamed on the place where the
group opens that is the first one to name a relation.  The selection of fields has no part in it.

The place comes from a search for the text of the token.  The search stops at the token itself, as
the same text at a place before it would be a token as well, and just as bare:
`find?_bracketed`.

The relations, and the page query, are refused only where the fields are, with the same error:
`refuses_exactly`.
-/
import Sitemap.Proofs.Page.Query
import Sitemap.Proofs.Pattern.Matches

namespace Sitemap

/-! ## Searching -/

namespace Text

theorem findChars?_of_first {needle cs : List Char} {n : Nat} (some : needle ≠ [])
    (here : needle <+: cs.drop n) (first : ∀ m, m < n → ¬needle <+: cs.drop m) :
    findChars? needle cs = .some n := by
  induction cs generalizing n with
  | nil =>
    rw [List.drop_nil] at here
    exact absurd (List.prefix_nil.mp here) some
  | cons c cs ih =>
    unfold findChars?
    cases n with
    | zero => exact if_pos (List.isPrefixOf_iff_prefix.mpr here)
    | succ n =>
      have notHere : ¬needle.isPrefixOf (c :: cs) = true := fun e =>
        first 0 (Nat.succ_pos n) (List.isPrefixOf_iff_prefix.mp e)
      rw [if_neg notHere, ih here fun m lt => first (m + 1) (Nat.succ_lt_succ lt)]
      rfl

end Text

namespace Pattern

/-! ## The groups of a pattern, in order -/

variable {cs path : List Char} {n i : Nat} {found : List (Nat × List Char)} {P : String}

theorem GroupAt.bracketed (h : GroupAt cs i path) : '[' :: path ++ [']'] <+: cs.drop i := by
  obtain ⟨after, there⟩ := h.there
  exact ⟨after, by rw [there, List.append_assoc]; rfl⟩

/-- No group opens inside another. -/
theorem GroupAt.behind (h : GroupAt cs i path) {j : Nat} {other : List Char}
    (h' : GroupAt cs j other) (lt : i < j) : i + path.length + 2 ≤ j := by
  by_contra! inside
  obtain ⟨after, there⟩ := h.there
  have next : cs.drop (i + 1) = path ++ ']' :: after := drop_add_of_drop ['['] there
  rcases Nat.lt_or_ge j (i + 1 + path.length) with within | atEnd
  · exact not_groupAt_inside h.bare next lt within other h'
  · obtain rfl : j = i + 1 + path.length := by omega
    have head := h'.head_eq
    rw [drop_add_of_drop path next] at head
    cases head

/-- All groups of a text are found from left to right, as none of them overlap. -/
theorem Matches.mem_iff (h : Matches cs n found) :
    (i, path) ∈ found ↔ n ≤ i ∧ GroupAt cs i path := by
  induction h with
  | none no => simpa using no i path
  | @next n j other found le here first _ ih =>
    rw [List.mem_cons, ih]
    constructor
    · rintro (same | ⟨behind, there⟩)
      · cases same
        exact ⟨le, here⟩
      · exact ⟨by omega, there⟩
    · rintro ⟨le', there⟩
      rcases Nat.lt_trichotomy i j with lt | rfl | lt
      · exact absurd there (first i path le' lt)
      · exact .inl (by rw [here.unique there])
      · exact .inr ⟨here.behind there lt, there⟩

theorem Matches.pairwise (h : Matches cs n found) : found.Pairwise fun a b => a.1 < b.1 := by
  induction h with
  | none _ => exact .nil
  | next _ _ _ later ih =>
    refine List.pairwise_cons.mpr ⟨fun m mem => ?_, ih⟩
    have := (later.mem_iff.mp mem).1
    show _ < m.1
    omega

theorem mem_groups : (i, path) ∈ groups P ↔ GroupAt P.toList i path := by
  rw [(matches_iff.mpr rfl : Matches P.toList 0 (groups P)).mem_iff]
  exact and_iff_right (Nat.zero_le i)

theorem pairwise_groups (P : String) : (groups P).Pairwise fun a b => a.1 < b.1 :=
  (matches_iff.mpr rfl : Matches P.toList 0 (groups P)).pairwise

/-- The token of a group. -/
def tokenOf (path : List Char) : Token := Token.ofPath (String.ofList path)

theorem tokens_eq_groups {ts : List Token} (scanned : tokens P = .ok ts) :
    ts = (groups P).map fun m => tokenOf m.2 :=
  ((resolves P).1 ts scanned).tokens.symm

theorem mem_tokens_iff {ts : List Token} (scanned : tokens P = .ok ts) {t : Token} :
    t ∈ ts ↔ ∃ i path, GroupAt P.toList i path ∧ tokenOf path = t := by
  rw [tokens_eq_groups scanned, List.mem_map]
  constructor
  · rintro ⟨⟨i, path⟩, mem, rfl⟩
    exact ⟨i, path, mem_groups.mp mem, rfl⟩
  · rintro ⟨i, path, there, rfl⟩
    exact ⟨(i, path), mem_groups.mpr there, rfl⟩

theorem toList_bracketed (path : List Char) :
    ("[" ++ (tokenOf path).path ++ "]").toList = '[' :: path ++ [']'] := by
  rw [tokenOf, Token.path_ofPath]
  simp

/-- A token that no token before it is like is found at its own place. -/
theorem find?_bracketed (here : GroupAt P.toList n path)
    (first : ∀ m, m < n → ¬GroupAt P.toList m path) :
    Text.find? ("[" ++ (tokenOf path).path ++ "]") P = some n := by
  unfold Text.find?
  rw [toList_bracketed]
  refine Text.findChars?_of_first (List.cons_ne_nil _ _) here.bracketed fun m lt before => ?_
  obtain ⟨after, there⟩ := before
  exact first m lt ⟨here.something, here.bare, after, by rw [← there, List.append_assoc]; rfl⟩

/-- The first token of a kind, and the place where its group opens. -/
theorem find?_tokens_iff {ts : List Token} (scanned : tokens P = .ok ts) {kind : Token → Bool}
    {t : Token} :
    ts.find? kind = some t ↔ ∃ n path, GroupAt P.toList n path ∧ kind (tokenOf path) = true ∧
      (∀ m other, m < n → GroupAt P.toList m other → kind (tokenOf other) = false) ∧
        tokenOf path = t := by
  have ordered := pairwise_groups P
  rw [tokens_eq_groups scanned, List.find?_map, Option.map_eq_some_iff]
  constructor
  · rintro ⟨⟨n, path⟩, first, rfl⟩
    obtain ⟨there, earlier, later, split, others⟩ := List.find?_eq_some_iff_append.mp first
    have here : (n, path) ∈ groups P := by rw [split]; simp
    refine ⟨n, path, mem_groups.mp here, there, fun m other lt group => ?_, rfl⟩
    rw [split, List.pairwise_append, List.pairwise_cons] at ordered
    have mem := mem_groups.mpr group
    rw [split, List.mem_append, List.mem_cons] at mem
    rcases mem with before | same | behind
    · simpa using others _ before
    · cases same
      omega
    · have := ordered.2.1.1 _ behind
      omega
  · rintro ⟨n, path, group, there, before, rfl⟩
    refine ⟨(n, path), List.find?_eq_some_iff_append.mpr ⟨there, ?_⟩, rfl⟩
    obtain ⟨earlier, later, split⟩ := List.append_of_mem (mem_groups.mpr group)
    refine ⟨earlier, later, split, fun m mem => ?_⟩
    rw [split, List.pairwise_append] at ordered
    have group : GroupAt P.toList m.1 m.2 := by
      rw [← mem_groups, split]
      exact List.mem_append_left _ mem
    have lt : m.1 < n := ordered.2.2 m mem (n, path) List.mem_cons_self
    simpa using before m.1 m.2 lt group

end Pattern

namespace ContentType

open Pattern

/-! ## What is refused -/

/-- A token with one segment that is known as a relation, or that a token with several segments names
as one in any of the patterns. -/
def NamesRelation (known Ps : List String) (t : Token) : Prop :=
  t.rest = [] ∧ (t.head ∈ known ∨
    ∃ Q ∈ Ps, ∃ us, tokens Q = .ok us ∧ ∃ u ∈ us, u.rest ≠ [] ∧ u.head = t.head)

/-- The error of some patterns. -/
inductive Refuses (known Ps : List String) : PatternError → Prop where
  /-- The first pattern that does not scan. -/
  | malformed {before after : List String} {P : String} {e : PatternError}
      (here : Ps = before ++ P :: after) (scan : ∀ Q ∈ before, ∃ ts, tokens Q = .ok ts)
      (fails : tokens P = .error e) : Refuses known Ps e
  /-- When all patterns scan, the first group that names a relation by itself, in the first pattern
  that has one. -/
  | bareRelation {before after : List String} {P : String} {n : Nat} {path : List Char}
      (scan : ∀ Q ∈ Ps, ∃ ts, tokens Q = .ok ts) (here : Ps = before ++ P :: after)
      (free : ∀ Q ∈ before, ∀ ts, tokens Q = .ok ts → ∀ t ∈ ts, ¬NamesRelation known Ps t)
      (group : GroupAt P.toList n path) (names : NamesRelation known Ps (tokenOf path))
      (first : ∀ m other, m < n → GroupAt P.toList m other →
        ¬NamesRelation known Ps (tokenOf other)) :
      Refuses known Ps (.flawed (.bareRelation (tokenOf path).head) (some n) P)

variable {c : ContentType} {sel : Selection} {known Ps : List String} {P : String}
  {lists : List (List Token)} {ts : List Token} {e : PatternError}

theorem exists_scans (scan : ∀ Q ∈ Ps, ∃ ts, tokens Q = .ok ts) :
    ∃ lists, List.Forall₂ (fun P ts => tokens P = .ok ts) Ps lists := by
  obtain ⟨lists, all⟩ := exists_mapM_iff.mpr scan
  exact ⟨lists, forall₂_of_mapM all⟩

theorem mem_namedRelations_iff
    (scans : List.Forall₂ (fun P ts => tokens P = .ok ts) Ps lists) {r : String} :
    r ∈ namedRelations lists.flatten ↔
      ∃ Q ∈ Ps, ∃ us, tokens Q = .ok us ∧ ∃ u ∈ us, u.rest ≠ [] ∧ u.head = r := by
  unfold namedRelations
  simp only [List.mem_map, List.mem_filter]
  constructor
  · rintro ⟨u, ⟨mem, several⟩, rfl⟩
    obtain ⟨Q, hQ, us, scanned, hu⟩ := exists_pattern_of_mem scans mem
    exact ⟨Q, hQ, us, scanned, u, hu, by simpa using several, rfl⟩
  · rintro ⟨Q, hQ, us, scanned, u, hu, several, rfl⟩
    exact ⟨u, ⟨mem_flatten_of_scans scans hQ scanned hu, by simpa using several⟩, rfl⟩

/-- A token is refused when it names a relation by itself. -/
theorem isBare_iff (scans : List.Forall₂ (fun P ts => tokens P = .ok ts) Ps lists)
    (hts : ts ∈ lists) {t : Token} :
    t.isBare (known ++ (lists.map Token.relations).flatten ++ Token.relations ts) = true ↔
      NamesRelation known Ps t := by
  have own : Token.relations ts ⊆ (lists.map Token.relations).flatten := fun r hr =>
    List.mem_flatten.mpr ⟨_, List.mem_map_of_mem hts, hr⟩
  unfold NamesRelation
  rw [← mem_namedRelations_iff scans, ← mem_relations]
  obtain ⟨head, rest⟩ := t
  cases rest with
  | nil =>
    have named : Token.isBare (known ++ (lists.map Token.relations).flatten ++ Token.relations ts)
        ⟨head, []⟩ = List.contains _ head := rfl
    rw [named, List.contains_iff_mem, List.append_assoc, List.mem_append, List.mem_append]
    constructor
    · rintro (h | h | h)
      · exact ⟨rfl, .inl h⟩
      · exact ⟨rfl, .inr h⟩
      · exact ⟨rfl, .inr (own h)⟩
    · rintro ⟨-, h | h⟩
      · exact .inl h
      · exact .inr (.inl h)
  | cons s rest =>
    constructor
    · intro h
      cases h
    · rintro ⟨single, -⟩
      cases single

/-- The error of a pattern that scans. -/
theorem fields_eq_error_iff {names : List String} (scanned : tokens P = .ok ts) :
    fields sel names P = .error e ↔
      ∃ t, ts.find? (Token.isBare (names ++ Token.relations ts)) = some t ∧ bareError P t = e := by
  unfold fields
  rw [scanned]
  show fieldsOf sel names P ts = .error e ↔ _
  unfold fieldsOf
  cases ts.find? (Token.isBare (names ++ Token.relations ts)) with
  | none => simp
  | some t => simp

/-- The error of a pattern names the first group that names a relation, by the place where it
opens. -/
theorem fields_eq_error_iff_group
    (scans : List.Forall₂ (fun P ts => tokens P = .ok ts) Ps lists) (hP : P ∈ Ps) :
    fields sel (known ++ (lists.map Token.relations).flatten) P = .error e ↔
      ∃ n path, GroupAt P.toList n path ∧ NamesRelation known Ps (tokenOf path) ∧
        (∀ m other, m < n → GroupAt P.toList m other →
          ¬NamesRelation known Ps (tokenOf other)) ∧
        .flawed (.bareRelation (tokenOf path).head) (some n) P = e := by
  obtain ⟨ts, hts, scanned⟩ := exists_of_mapM (mapM_of_forall₂ scans) hP
  rw [fields_eq_error_iff scanned]
  have position {n : Nat} {path : List Char} (group : GroupAt P.toList n path)
      (names : NamesRelation known Ps (tokenOf path))
      (first : ∀ m other, m < n → GroupAt P.toList m other →
        ¬NamesRelation known Ps (tokenOf other)) :
      bareError P (tokenOf path) = .flawed (.bareRelation (tokenOf path).head) (some n) P := by
    unfold bareError
    rw [find?_bracketed group fun m lt there => first m path lt there names]
    have field : (tokenOf path).field = (tokenOf path).head := by
      unfold Token.field Token.isRelation
      rw [names.1]
      rfl
    rw [field]
  constructor
  · rintro ⟨t, found, rfl⟩
    obtain ⟨n, path, group, bare, before, rfl⟩ := (find?_tokens_iff scanned).mp found
    have names := (isBare_iff scans hts).mp bare
    have first : ∀ m other, m < n → GroupAt P.toList m other →
        ¬NamesRelation known Ps (tokenOf other) := fun m other lt there named => by
      have free := before m other lt there
      rw [(isBare_iff scans hts).mpr named] at free
      cases free
    exact ⟨n, path, group, names, first, (position group names first).symm⟩
  · rintro ⟨n, path, group, names, first, rfl⟩
    refine ⟨tokenOf path, (find?_tokens_iff scanned).mpr ⟨n, path, group,
      (isBare_iff scans hts).mpr names, fun m other lt there => ?_, rfl⟩,
      position group names first⟩
    exact Bool.eq_false_iff.mpr fun bare =>
      first m other lt there ((isBare_iff scans hts).mp bare)

theorem fields_eq_ok_iff_free (scans : List.Forall₂ (fun P ts => tokens P = .ok ts) Ps lists)
    (hP : P ∈ Ps) (scanned : tokens P = .ok ts) :
    (∃ names, fields sel (known ++ (lists.map Token.relations).flatten) P = .ok names) ↔
      ∀ t ∈ ts, ¬NamesRelation known Ps t := by
  obtain ⟨ts', hts, again⟩ := exists_of_mapM (mapM_of_forall₂ scans) hP
  obtain rfl := Except.ok.inj (scanned.symm.trans again)
  have each : (∀ t ∈ ts, ¬NamesRelation known Ps t) ↔ ∀ t ∈ ts, t.isBare
      (known ++ (lists.map Token.relations).flatten ++ Token.relations ts) = false :=
    forall_congr' fun t => imp_congr_right fun _ => by
      rw [← isBare_iff scans hts, Bool.not_eq_true]
  rw [each, not_isBare_iff]
  constructor
  · rintro ⟨names, read⟩
    exact ((fields_eq_ok_iff scanned).mp read).1
  · intro free
    exact ⟨_, (fields_eq_ok_iff scanned).mpr ⟨free, rfl⟩⟩

theorem relations_eq_error_iff : relations P = .error e ↔ tokens P = .error e :=
  map_eq_error_iff

theorem relations_eq_ok_iff : (∃ found, relations P = .ok found) ↔ ∃ ts, tokens P = .ok ts := by
  constructor
  · rintro ⟨found, read⟩
    obtain ⟨ts, scanned, -⟩ := exists_of_map read
    exact ⟨ts, scanned⟩
  · rintro ⟨ts, scanned⟩
    exact ⟨Token.relations ts, by rw [relations, scanned]; rfl⟩

theorem relationsRead_eq_error_iff :
    c.relationsRead = .error e ↔ ∃ before P after, c.patterns = before ++ P :: after ∧
      (∀ Q ∈ before, ∃ ts, tokens Q = .ok ts) ∧ tokens P = .error e := by
  unfold relationsRead
  simp only [map_eq_error_iff, mapM_eq_error_iff, relations_eq_error_iff, relations_eq_ok_iff]

theorem fieldsRead_eq_error_iff :
    fieldsRead sel known c = .error e ↔ Refuses known c.patterns e := by
  unfold fieldsRead
  rw [bind_eq_error_iff, relationsRead_eq_error_iff]
  constructor
  · rintro (⟨before, P, after, here, scan, fails⟩ | ⟨found, read, failed⟩)
    · exact .malformed here scan fails
    · obtain ⟨lists, scans, rfl⟩ := relationsRead_iff.mp read
      rcases bind_eq_error_iff.mp failed with failed | ⟨_, _, done⟩
      · obtain ⟨before, P, after, here, free, fails⟩ := mapM_eq_error_iff.mp failed
        obtain ⟨n, path, group, names, first, rfl⟩ :=
          (fields_eq_error_iff_group scans (by rw [here]; simp)).mp fails
        refine .bareRelation (fun Q => tokens_of_scans scans) here (fun Q hQ ts scanned => ?_)
          group names first
        have mem : Q ∈ c.patterns := by rw [here]; exact List.mem_append_left _ hQ
        exact (fields_eq_ok_iff_free scans mem scanned).mp (free Q hQ)
      · cases done
  · intro refuses
    cases refuses with
    | malformed here scan fails => exact .inl ⟨_, _, _, here, scan, fails⟩
    | @bareRelation before after P n path scan here free group names first =>
      obtain ⟨lists, scans⟩ := exists_scans scan
      refine .inr ⟨_, relationsRead_iff.mpr ⟨lists, scans, rfl⟩, bind_eq_error_iff.mpr (.inl ?_)⟩
      refine mapM_eq_error_iff.mpr ⟨before, P, after, here, fun Q hQ => ?_, ?_⟩
      · have mem : Q ∈ c.patterns := by rw [here]; exact List.mem_append_left _ hQ
        obtain ⟨ts, scanned⟩ := scan Q mem
        exact (fields_eq_ok_iff_free scans mem scanned).mpr (free Q hQ ts scanned)
      · exact (fields_eq_error_iff_group scans (by rw [here]; simp)).mpr
          ⟨n, path, group, names, first, rfl⟩

theorem not_refuses_nil : ¬Refuses known [] e := by
  intro refuses
  cases refuses with
  | malformed here _ _ | bareRelation _ here _ _ _ _ => simp at here

theorem fieldNames_eq_error_iff {c : Option ContentType} {localized : Bool} :
    fieldNames sel localized known c = .error e ↔ Refuses known (patternsOf c) e := by
  cases c with
  | some c => exact map_eq_error_iff.trans fieldsRead_eq_error_iff
  | none =>
    constructor
    · intro h
      cases h
    · intro refuses
      exact absurd refuses not_refuses_nil

/-- Patterns are refused when one does not scan, or a token names a relation by itself. -/
theorem exists_refuses_iff {c : Option ContentType} :
    (∃ e, Refuses known (patternsOf c) e) ↔
      (∃ P ∈ patternsOf c, ∃ e, tokens P = .error e) ∨
        ∃ P ∈ patternsOf c, ∃ ts, tokens P = .ok ts ∧
          ∃ t ∈ ts, NamesRelation known (patternsOf c) t := by
  constructor
  · rintro ⟨e, refuses⟩
    cases refuses with
    | malformed here _ fails => exact .inl ⟨_, by rw [here]; simp, e, fails⟩
    | @bareRelation before after P n path scan here _ group names _ =>
      have mem : P ∈ patternsOf c := by rw [here]; simp
      obtain ⟨ts, scanned⟩ := scan P mem
      exact .inr ⟨P, mem, ts, scanned, _, (mem_tokens_iff scanned).mpr ⟨n, path, group, rfl⟩, names⟩
  · intro wrong
    cases answer : fieldNames {} false known c with
    | error e => exact ⟨e, fieldNames_eq_error_iff.mp answer⟩
    | ok names =>
      obtain ⟨lists, scans, free, -⟩ := fieldNames_eq_ok_iff.mp answer
      exfalso
      rcases wrong with ⟨P, hP, e, fails⟩ | ⟨P, hP, ts, scanned, t, ht, single, named⟩
      · obtain ⟨ts, scanned⟩ := tokens_of_scans scans hP
        rw [scanned] at fails
        cases fails
      · obtain ⟨head, rest⟩ := t
        obtain rfl : rest = [] := single
        have own : head ∈ ownNames lists.flatten :=
          mem_ownNames.mpr (mem_flatten_of_scans scans hP scanned ht)
        rcases named with known | other
        · exact (free head own).1 known
        · exact (free head own).2 ((mem_namedRelations_iff scans).mpr other)

/-! ## The relations -/

/-- The relations are looked for pattern by pattern, up to the first one that names any. -/
theorem refuses_of_readsRelation (h : readsRelation Ps = .error e) : Refuses known Ps e := by
  have malformed : ∃ before P after, Ps = before ++ P :: after ∧
      (∀ Q ∈ before, ∃ ts, tokens Q = .ok ts) ∧ tokens P = .error e := by
    induction Ps with
    | nil => cases h
    | cons P Ps ih =>
      rcases bind_eq_error_iff.mp h with here | ⟨found, read, later⟩
      · exact ⟨[], P, Ps, rfl, List.forall_mem_nil _, relations_eq_error_iff.mp here⟩
      · split at later
        · obtain ⟨before, Q, after, rfl, scan, fails⟩ := ih later
          exact ⟨P :: before, Q, after, rfl, List.forall_mem_cons.mpr
            ⟨relations_eq_ok_iff.mp ⟨found, read⟩, scan⟩, fails⟩
        · cases later
  obtain ⟨before, P, after, here, scan, fails⟩ := malformed
  exact .malformed here scan fails

theorem relations_of_readsRelation (h : readsRelation Ps = .ok false) :
    ∀ P ∈ Ps, relations P = .ok [] := by
  induction Ps with
  | nil => exact List.forall_mem_nil _
  | cons P Ps ih =>
    obtain ⟨found, read, later⟩ := exists_of_bind h
    by_cases none : found = []
    · rw [if_pos none] at later
      exact List.forall_mem_cons.mpr ⟨none ▸ read, ih later⟩
    · rw [if_neg none] at later
      cases later

theorem relationFields_of_readsRelation (h : readsRelation c.patterns = .ok false) :
    relationFields known (some c) = .ok [] := by
  have found : c.relationsRead = .ok [] := by
    unfold relationsRead
    rw [mapM_ok (relations_of_readsRelation h)]
    show Except.ok (List.map (fun _ => []) c.patterns).flatten = _
    simp
  show (c.relationsRead >>= _) = _
  rw [found]
  rfl

theorem refuses_of_relationFields {c : Option ContentType}
    (h : relationFields known c = .error e) : Refuses known (patternsOf c) e := by
  cases c with
  | none => cases h
  | some c =>
    rcases bind_eq_error_iff.mp h with failed | ⟨found, -, each⟩
    · obtain ⟨before, P, after, here, scan, fails⟩ := relationsRead_eq_error_iff.mp failed
      exact .malformed here scan fails
    · obtain ⟨_, _, _, -, -, fails⟩ := mapM_eq_error_iff.mp each
      exact fieldNames_eq_error_iff.mp (map_eq_error_iff.mp fails)

/-! ## Known names written as a value -/

/-- A list of names is taken for the names. -/
theorem knownNames_texts (names : List String) :
    (Value.texts names).knownNames = .ok (distinct names) := by
  cases names with
  | nil => rfl
  | cons a names => exact Value.nameSet_texts (a :: names)

theorem fieldNamesKnowing_eq_error_iff {c : Option ContentType} {localized : Bool} {value : Value}
    {failure : Failure} (looked : value.knownNames = .ok known) :
    fieldNamesKnowing sel localized value c = .error failure ↔
      ∃ e, failure = .pattern e ∧ Refuses known (patternsOf c) e := by
  have refuses (e : PatternError) :
      Refuses known (patternsOf c) e ↔ fieldNames sel localized known c = .error e :=
    fieldNames_eq_error_iff.symm
  simp only [refuses]
  cases c with
  | some c =>
    rw [fieldNamesKnowing_some looked, mapError_eq_error_iff]
    exact exists_congr fun e => by rw [and_comm, eq_comm]
  | none =>
    constructor
    · intro h
      cases h
    · rintro ⟨e, -, failed⟩
      cases failed

theorem refuses_of_relationFieldsKnowing {c : Option ContentType} {value : Value}
    {failure : Failure} (looked : value.knownNames = .ok known)
    (h : relationFieldsKnowing value c = .error failure) :
    ∃ e, failure = .pattern e ∧ Refuses known (patternsOf c) e := by
  cases c with
  | none => cases h
  | some c =>
    rcases bind_eq_error_iff.mp h with failed | ⟨reads, found, failed⟩
    · obtain ⟨e, refused, rfl⟩ := mapError_eq_error_iff.mp failed
      exact ⟨e, rfl, refuses_of_readsRelation refused⟩
    · cases reads with
      | false =>
        -- Without a look at the known names there is no relation to refuse.
        have none : relationFields [] (some c) = .ok [] :=
          relationFields_of_readsRelation (ok_of_mapError found)
        have failed : (relationFields [] (some c)).mapError Failure.pattern = _ := failed
        rw [none] at failed
        cases failed
      | true =>
        have failed : (value.knownNames.mapError Failure.shape >>= fun names =>
            (relationFields names (some c)).mapError Failure.pattern) = _ := failed
        rw [looked] at failed
        obtain ⟨e, refused, rfl⟩ := mapError_eq_error_iff.mp failed
        exact ⟨e, rfl, refuses_of_relationFields refused⟩

/-! ## The page query -/

theorem build_eq_error_iff {s : Settings} {c : Option ContentType} {t : Traits} {pageId : Value} :
    PageQuery.build s c t pageId = .error (.pattern e) ↔
      Refuses t.relationNames (patternsOf c) e := by
  constructor
  · intro h
    rcases bind_eq_error_iff.mp h with failed | ⟨_, -, later⟩
    · obtain ⟨_, failed, same⟩ := mapError_eq_error_iff.mp failed
      cases same
      exact fieldNames_eq_error_iff.mp failed
    · rcases bind_eq_error_iff.mp later with failed | ⟨_, -, later⟩
      · obtain ⟨_, failed, same⟩ := mapError_eq_error_iff.mp failed
        cases same
        exact refuses_of_relationFields failed
      · -- The filters do not look at the patterns.
        rcases bind_eq_error_iff.mp later with failed | ⟨_, -, done⟩
        · obtain ⟨_, -, same⟩ := mapError_eq_error_iff.mp failed
          cases same
        · cases done
  · intro refuses
    refine bind_eq_error_iff.mpr (.inl ?_)
    rw [fieldNames_eq_error_iff.mpr refuses]
    rfl

theorem ofSource_eq_error_iff {s : Settings} {c : Option ContentType} {src : Traits.Source}
    {t : Traits} {pageId : Value} (described : src.traits = .ok t) :
    PageQuery.ofSource s c src pageId = .error (.pattern e) ↔
      Refuses t.relationNames (patternsOf c) e := by
  unfold PageQuery.ofSource
  rw [described]
  exact build_eq_error_iff

/-! ## The main statement -/

/-- When and where the patterns of a content type are refused. -/
structure RefusesExactly (known : Value) (names : List String) (c : Option ContentType) : Prop where
  /-- Whichever fields are asked for, they are refused with this error and no other. -/
  fields : ∀ sel localized failure,
    fieldNamesKnowing sel localized known c = .error failure ↔
      ∃ e, failure = .pattern e ∧ Refuses names (patternsOf c) e
  /-- There is an error when a pattern does not scan, or a token names a relation by itself. -/
  whenever : (∃ e, Refuses names (patternsOf c) e) ↔
    (∃ P ∈ patternsOf c, ∃ e, tokens P = .error e) ∨
      ∃ P ∈ patternsOf c, ∃ ts, tokens P = .ok ts ∧
        ∃ t ∈ ts, NamesRelation names (patternsOf c) t
  /-- The relations are refused only where the fields are. -/
  relations : ∀ failure, relationFieldsKnowing known c = .error failure →
    ∀ sel localized, fieldNamesKnowing sel localized known c = .error failure
  /-- A query for pages with these relations is refused exactly where the fields are. -/
  query : ∀ s src t pageId, src.traits = .ok t → t.relationNames = names →
    ∀ sel localized e, PageQuery.ofSource s c src pageId = .error (.pattern e) ↔
      fieldNamesKnowing sel localized known c = .error (.pattern e)

theorem refuses_exactly {known : Value} {names : List String} (c : Option ContentType)
    (looked : known.knownNames = .ok names) : RefusesExactly known names c where
  fields _ _ _ := fieldNamesKnowing_eq_error_iff looked
  whenever := exists_refuses_iff
  relations failure refused sel localized :=
    (fieldNamesKnowing_eq_error_iff looked).mpr (refuses_of_relationFieldsKnowing looked refused)
  query s src t pageId described same sel localized e := by
    rw [ofSource_eq_error_iff described, same, fieldNamesKnowing_eq_error_iff looked]
    constructor
    · intro refuses
      exact ⟨e, rfl, refuses⟩
    · rintro ⟨_, refused, refuses⟩
      obtain rfl := Failure.pattern.inj refused
      exact refuses

/-- A relation that one language reads a field of, and another names by itself, twice. -/
def press : ContentType :=
  ⟨[("en", "/[category.name]"), ("fr", "/[slug]/[category]/[category]")], []⟩

theorem refuses_exactly_of_press :
    (Value.texts ["author"]).knownNames = .ok ["author"] ∧
      RefusesExactly (.texts ["author"]) ["author"] (some press) ∧
      Refuses ["author"] ["/[category.name]", "/[slug]/[category]/[category]"]
        (.flawed (.bareRelation "category") (some 8) "/[slug]/[category]/[category]") ∧
      PageQuery.ofSource {} (some press) (.given { relations := [.text "author"] }) .null
        = .error (.pattern (.flawed (.bareRelation "category") (some 8)
            "/[slug]/[category]/[category]")) := by
  have looked : (Value.texts ["author"]).knownNames = .ok ["author"] := knownNames_texts ["author"]
  have exactly := refuses_exactly (some press) looked
  have refused : fieldNamesKnowing {} false (.texts ["author"]) (some press) = .error (.pattern
      (.flawed (.bareRelation "category") (some 8) "/[slug]/[category]/[category]")) := rfl
  obtain ⟨e, same, refuses⟩ := (exactly.fields _ _ _).mp refused
  obtain rfl := Failure.pattern.inj same
  exact ⟨looked, exactly, refuses, (exactly.query {} _ _ .null rfl rfl {} false _).mpr refused⟩

end ContentType

end Sitemap
