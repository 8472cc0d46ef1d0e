/-
The fields that a pattern is said to read are those that its address depends on.

Two records that agree on these fields have the same address and the same reports: what a relation
holds counts only as far as it is many records, or one record with the fields that are read of it, or
neither.  And none of the fields is read in vain: for each there are two records that differ there
alone, and have different addresses.  `reads_what_shows` says both.

For the second half, a field that holds the letter a is set against one that holds an empty text, in
records that hold nothing else.  A token gives that letter or nothing, so that the letter occurs more
often in the one path than in the other, and the canonical form of a path has the letters of the path
as often (`count_canonical`).
-/
import Sitemap.Proofs.ContentType.Aggregation
import Sitemap.Proofs.Pattern.Matches

namespace Sitemap
namespace Pattern

/-! ## Agreement on what is read -/

/-- Two values that a relation holds, told apart by nothing that is read of it. -/
inductive SameBelow (names : List String) : Value → Value → Prop where
  | many {v w : Value} (left : isSeries v = true) (right : isSeries w = true) : SameBelow names v w
  | one {es fs : Entries Value} (agree : ∀ n ∈ names, held n es = held n fs) :
      SameBelow names (.mapping es) (.mapping fs)
  | neither {v w : Value} (left : isSeries v = false ∧ ∀ es, v ≠ .mapping es)
      (right : isSeries w = false ∧ ∀ es, w ≠ .mapping es) : SameBelow names v w

/-- Two records that agree on fields of their own, and below relations. -/
structure AgreeOn (own relations : List String) (below : String → List String)
    (a b : Entries Value) : Prop where
  own : ∀ n ∈ own, held n a = held n b
  below : ∀ r ∈ relations, SameBelow (below r) (held r a) (held r b)

/-- Two mappings that hold values under a name, and differ only in these. -/
structure DifferOnly (n : String) (v w : Value) (a b : Entries Value) : Prop where
  left : Entries.get? n a = some v
  right : Entries.get? n b = some w
  same : ∀ k, k ≠ n → Entries.get? k a = Entries.get? k b

/-- Two records that differ only in the value at a path. -/
inductive DifferAt : String → Entries Value → Entries Value → Prop where
  | own {n : String} {a b : Entries Value} {v w : Value} (plain : '.' ∉ n.toList)
      (only : DifferOnly n v w a b) : DifferAt n a b
  | below {r f : String} {a b es fs : Entries Value} {v w : Value} (plain : '.' ∉ r.toList)
      (related : DifferOnly r (.mapping es) (.mapping fs) a b) (only : DifferOnly f v w es fs) :
      DifferAt (r ++ "." ++ f) a b

/-- A token reads values alike that are told apart by nothing that is read of them. -/
theorem SameBelow.replacement_eq {t : Token} {names : List String} {a b : Entries Value}
    (same : SameBelow names (held t.head a) (held t.head b)) (several : t.rest ≠ [])
    (read : Text.join "." t.rest ∈ names) : t.replacement a = t.replacement b := by
  generalize left : held t.head a = v at same
  generalize right : held t.head b = w at same
  cases same with
  | many hv hw =>
    rw [Token.replacement_series several (by rw [left, hv]),
      Token.replacement_series several (by rw [right, hw])]
  | one agree =>
    rw [Token.replacement_mapping several left, Token.replacement_mapping several right,
      agree _ read]
  | neither hv hw =>
    subst left right
    rw [Token.replacement_nothing several hv.1 hv.2, Token.replacement_nothing several hw.1 hw.2]

/-- Records that agree on what the tokens name are read alike by every token. -/
theorem AgreeOn.replacement_eq {ts : List Token} {a b : Entries Value}
    (agree : AgreeOn (distinct (ownNames ts)) (distinct (namedRelations ts))
      (fun r => distinct (namesBelow r ts)) a b) :
    ∀ t ∈ ts, t.replacement a = t.replacement b := by
  rintro ⟨head, rest⟩ ht
  cases rest with
  | nil =>
    have named : head ∈ distinct (ownNames ts) := mem_distinct.mpr (mem_ownNames.mpr ht)
    rw [Token.replacement_single rfl, Token.replacement_single rfl, agree.own head named]
  | cons part rest =>
    have read : Text.join "." (part :: rest) ∈ namesBelow head ts :=
      mem_namesBelow.mpr ⟨part, rest, ht, rfl⟩
    have named : head ∈ distinct (namedRelations ts) :=
      mem_distinct.mpr (mem_namedRelations.mpr ⟨_, read⟩)
    exact (agree.below head named).replacement_eq (List.cons_ne_nil part rest)
      (mem_distinct.mpr read)

/-! ## Letters in a path -/

theorem count_collapse {c : Char} (other : c ≠ '/') (cs : List Char) :
    (collapse cs).count c = cs.count c := by
  fun_induction collapse cs with
  | case1 => rfl
  | case2 => rfl
  | case3 d e cs slashes ih =>
    obtain ⟨rfl, rfl⟩ := slashes
    rw [ih]
    exact (List.count_cons_of_ne (Ne.symm other)).symm
  | case4 d e cs _ ih => rw [List.count_cons, List.count_cons, ih]

theorem count_rooted {c : Char} (other : c ≠ '/') (cs : List Char) :
    (rooted cs).count c = cs.count c := by
  cases cs with
  | nil => exact List.count_cons_of_ne (Ne.symm other)
  | cons d cs =>
    show (if d = '/' then d :: cs else '/' :: d :: cs).count c = _
    split
    · rfl
    · exact List.count_cons_of_ne (Ne.symm other)

/-- Only slashes are taken away or put in front. -/
theorem count_canonical {c : Char} (other : c ≠ '/') (path : String) :
    (canonical path).toList.count c = path.toList.count c := by
  unfold canonical
  rw [String.toList_ofList, count_rooted other, count_collapse other]

/-- What occurs more often in the text of one token, and in that of none less often, occurs more
often. -/
theorem Layout.count_fill_lt {L : Layout} {f g : Token → List Char} {c : Char}
    (le : ∀ t ∈ L.tokens, (f t).count c ≤ (g t).count c)
    (lt : ∃ t ∈ L.tokens, (f t).count c < (g t).count c) :
    (L.fill f).count c < (L.fill g).count c := by
  obtain ⟨t, ht, less⟩ := lt
  obtain ⟨e, he, rfl⟩ := List.mem_map.mp ht
  unfold Layout.fill
  rw [List.count_append, List.count_append, List.count_flatMap, List.count_flatMap]
  apply Nat.add_lt_add_left
  refine List.sum_lt_sum _ _ (fun x hx => ?_) ⟨e, he, ?_⟩
  · show (f x.1 ++ x.2).count c ≤ (g x.1 ++ x.2).count c
    rw [List.count_append, List.count_append]
    exact Nat.add_le_add_right (le x.1 (List.mem_map_of_mem hx)) _
  · show (f e.1 ++ e.2).count c < (g e.1 ++ e.2).count c
    rw [List.count_append, List.count_append]
    exact Nat.add_lt_add_right less _

/-! ## A record for each path -/

/-- A record with one value, at the path of a token. -/
def Token.probe (t : Token) (v : Value) : Entries Value :=
  match t.rest with
  | [] => [(t.head, v)]
  | _ => [(t.head, .mapping [(Text.join "." t.rest, v)])]

theorem get?_single (n : String) (v : Value) : Entries.get? n [(n, v)] = some v := if_pos rfl

theorem get?_single_of_ne {n k : String} (ne : n ≠ k) (v : Value) : Entries.get? k [(n, v)] = none :=
  if_neg ne

theorem held_self (n : String) (v : Value) : held n [(n, v)] = v := by
  rw [held, get?_single]
  rfl

theorem held_of_ne {n m : String} (ne : m ≠ n) (v : Value) : held n [(m, v)] = .null := by
  rw [held, get?_single_of_ne ne]
  rfl

/-- A token gives the value at its path. -/
theorem Token.replaced_probe (t : Token) (s : String) :
    t.replaced (t.probe (.text s)) = s.toList := by
  obtain ⟨head, rest⟩ := t
  unfold Token.replaced
  cases rest with
  | nil =>
    have value : held (Token.head ⟨head, []⟩) (Token.probe ⟨head, []⟩ (.text s)) = .text s :=
      held_self head _
    rw [Token.replacement_single rfl, value]
    rfl
  | cons part rest =>
    rw [Token.replacement_mapping (List.cons_ne_nil part rest) (held_self head _), held_self]
    rfl

theorem held_empty (n m : String) :
    held n [(m, .text "")] = .text "" ∨ held n [(m, .text "")] = .null := by
  by_cases same : m = n
  · subst same
    exact .inl (held_self m _)
  · exact .inr (held_of_ne same _)

/-- With an empty text at one path, and nothing elsewhere, every token gives nothing. -/
theorem Token.replaced_probe_empty {t u : Token}
    (free : u.rest = [] → t.rest ≠ [] → u.head ≠ t.head) :
    u.replaced (t.probe (.text "")) = [] := by
  suffices gives : u.replacement (t.probe (.text "")) = .value "" by
    unfold Token.replaced
    rw [gives]
    rfl
  obtain ⟨n, parts⟩ := u
  obtain ⟨head, rest⟩ := t
  have nothing {v : Value} (h : v = .text "" ∨ v = .null) :
      isSeries v = false ∧ (∀ es, v ≠ .mapping es) ∧ v.displayOrEmpty = "" := by
    rcases h with rfl | rfl <;> exact ⟨rfl, by simp, rfl⟩
  cases parts with
  | nil =>
    rw [Token.replacement_single rfl]
    congr 1
    cases rest with
    | nil => exact (nothing (held_empty n head)).2.2
    | cons part rest =>
      have ne : head ≠ n := Ne.symm (free rfl (List.cons_ne_nil part rest))
      exact (nothing (.inr (held_of_ne ne _))).2.2
  | cons more parts =>
    have several : more :: parts ≠ [] := List.cons_ne_nil more parts
    cases rest with
    | nil =>
      obtain ⟨few, other, _⟩ := nothing (held_empty n head)
      exact Token.replacement_nothing several few other
    | cons part rest =>
      by_cases same : head = n
      · subst same
        rw [Token.replacement_mapping several (held_self head _)]
        exact congrArg _ (nothing (held_empty _ _)).2.2
      · obtain ⟨few, other, _⟩ := nothing (.inr (held_of_ne same _))
        exact Token.replacement_nothing several few other

theorem Token.Written.plain {t : Token} (h : t.Written) : '.' ∉ t.head.toList := by
  rw [← h.again]
  show '.' ∉ (String.ofList (Text.splitChars '.' t.path.toList).1).toList
  rw [String.toList_ofList]
  exact (Text.sep_not_mem_splitChars '.' t.path.toList).1

theorem differOnly_single (n : String) (v w : Value) : DifferOnly n v w [(n, v)] [(n, w)] where
  left := get?_single n v
  right := get?_single n w
  same k ne := by rw [get?_single_of_ne (Ne.symm ne), get?_single_of_ne (Ne.symm ne)]

/-- Probes of one token differ only at its path. -/
theorem Token.differAt_probe {t : Token} (h : t.Written) (v w : Value) :
    DifferAt t.path (t.probe v) (t.probe w) := by
  have plain := h.plain
  obtain ⟨head, rest⟩ := t
  cases rest with
  | nil => exact .own plain (differOnly_single head v w)
  | cons part rest => exact .below plain (differOnly_single head _ _) (differOnly_single _ v w)

/-! ## Fields and addresses -/

/-- What a pattern reads is what its address shows, where `paths` are the paths that it reads. -/
structure ReadsWhatShows (pattern : String) (paths : List String) : Prop where
  complete : ∃ own relations below, fields { topLevel := true } [] pattern = .ok own ∧
    Pattern.relations pattern = .ok relations ∧
    (∀ r ∈ relations, fields { relation := some r } [] pattern = .ok (below r)) ∧
    ∀ a b, AgreeOn own relations below a b →
      ∃ A, addressOf pattern (.mapping a) = .ok A ∧ addressOf pattern (.mapping b) = .ok A
  minimal : ∀ path ∈ paths, ∃ a b, DifferAt path a b ∧
    ∃ A B, addressOf pattern (.mapping a) = .ok A ∧ addressOf pattern (.mapping b) = .ok B ∧
      A.url ≠ B.url

theorem addressOf_mapping {pattern : String} {record : Entries Value} {A : Address}
    (h : address pattern record = .ok A) : addressOf pattern (.mapping record) = .ok A := by
  unfold address at h
  unfold addressOf
  obtain ⟨ts, scanned, rfl⟩ := exists_of_map h
  rw [scanned]
  rfl

theorem Selection.pick_all (t : Token) : Selection.pick {} t = some t.path := by
  obtain ⟨head, rest⟩ := t
  cases rest <;> rfl

/-- The letter a at the path of a token makes another address than nothing there. -/
theorem url_ne_of_probe {pattern : String} {ts : List Token} (scanned : tokens pattern = .ok ts)
    (free : ∀ n ∈ ownNames ts, n ∉ namedRelations ts) {t : Token} (ht : t ∈ ts) :
    ∃ A B, address pattern (t.probe (.text "a")) = .ok A ∧
      address pattern (t.probe (.text "")) = .ok B ∧ A.url ≠ B.url := by
  obtain ⟨L, describes⟩ := exists_describes scanned
  obtain rfl : ts = L.tokens := Except.ok.inj (scanned.symm.trans describes.tokens)
  have empty (u : Token) (hu : u ∈ L.tokens) : u.replaced (t.probe (.text "")) = [] := by
    refine Token.replaced_probe_empty fun single several same => ?_
    -- A name would be a field and a relation.
    obtain ⟨n, _⟩ := u
    obtain ⟨r, rest⟩ := t
    obtain rfl : n = r := same
    obtain ⟨part, rest, rfl⟩ := List.exists_cons_of_ne_nil several
    cases single
    exact free n (mem_ownNames.mpr hu)
      (mem_namedRelations.mpr ⟨_, mem_namesBelow.mpr ⟨part, rest, ht, rfl⟩⟩)
  have more : (L.fill (Token.replaced (t.probe (.text "")))).count 'a'
      < (L.fill (Token.replaced (t.probe (.text "a")))).count 'a' := by
    refine Layout.count_fill_lt (fun u hu => ?_) ⟨t, ht, ?_⟩
    · rw [empty u hu]
      exact Nat.zero_le _
    · rw [empty t ht, Token.replaced_probe]
      decide
  refine ⟨_, _, address_of_describes describes _, address_of_describes describes _, fun same => ?_⟩
  have counts : (canonical _).toList.count 'a' = (canonical _).toList.count 'a' :=
    congrArg (fun url : String => url.toList.count 'a') same
  rw [count_canonical (by decide), count_canonical (by decide), String.toList_ofList,
    String.toList_ofList] at counts
  omega

/-- Two records that agree on the fields that a pattern reads have the same address and the same
reports, and for each of these fields there are two records that differ there alone and have
different addresses. -/
theorem reads_what_shows {pattern : String} {paths : List String}
    (read : fields {} [] pattern = .ok paths) : ReadsWhatShows pattern paths := by
  obtain ⟨ts, scanned, _⟩ := exists_of_bind read
  obtain ⟨free, rfl⟩ := (fields_eq_ok_iff scanned).mp read
  have relations : Token.relations ts = distinct (namedRelations ts) := by
    rw [Token.relations, filterMap_relation?]
  refine ⟨⟨distinct (ownNames ts), distinct (namedRelations ts),
    fun r => distinct (namesBelow r ts), ?_, ?_, fun r _ => ?_, fun a b agree => ?_⟩,
    fun path mem => ?_⟩
  · rw [fields_eq_ok_iff scanned, filterMap_pick_topLevel]
    exact ⟨free, rfl⟩
  · rw [Pattern.relations, scanned, ← relations]
    rfl
  · rw [fields_eq_ok_iff scanned, filterMap_pick_relation]
    exact ⟨free, rfl⟩
  · obtain ⟨A, left, right⟩ := address_eq_of_replacement scanned agree.replacement_eq
    exact ⟨A, addressOf_mapping left, addressOf_mapping right⟩
  · obtain ⟨t, ht, picked⟩ := List.mem_filterMap.mp (mem_distinct.mp mem)
    rw [Selection.pick_all] at picked
    cases picked
    have unnamed : ∀ n ∈ ownNames ts, n ∉ namedRelations ts := fun n hn named =>
      free n hn (by rw [List.nil_append, relations]; exact mem_distinct.mpr named)
    obtain ⟨A, B, left, right, ne⟩ := url_ne_of_probe scanned unnamed ht
    exact ⟨_, _, t.differAt_probe (written_of_tokens scanned t ht) _ _, A, B,
      addressOf_mapping left, addressOf_mapping right, ne⟩

/-- A field of a relation that is read twice, and a slash behind a slash. -/
theorem reads_what_shows_news :
    fields {} [] "/[category.name]//[slug]-[category.name]" = .ok ["category.name", "slug"] ∧
      ReadsWhatShows "/[category.name]//[slug]-[category.name]" ["category.name", "slug"] := by
  have read : fields {} [] "/[category.name]//[slug]-[category.name]"
      = .ok ["category.name", "slug"] := by cbv
  exact ⟨read, reads_what_shows read⟩

end Pattern
end Sitemap
