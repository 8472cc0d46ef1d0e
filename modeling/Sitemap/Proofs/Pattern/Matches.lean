/-
The bracket groups that an address replaces are the tokens that the scan finds.

A group is an opening bracket, one or more characters that are no brackets, and a closing one.
`Matches` says which groups a text has when they are looked for from left to right and do not
overlap, without the walk that finds them.  The walk finds these in every pattern
(`matches_iff`).  In a pattern that scans, they are the tokens of the scan, each at the place
where its bracket opens (`groups_of_placed`): that any text may stand in a group, and only a path in
a token, makes no difference there.

So an address takes the texts of the pattern as they are, and puts in place of each token what
`Token.Gives` says, or fails as the scan does: `resolves`.
-/
import Mathlib
import Sitemap.Proofs.Pattern.Grammar

namespace Sitemap
namespace Pattern

/-! ## Groups, from left to right -/

/-- A group around `path`, whose bracket opens at place `i`. -/
structure GroupAt (cs : List Char) (i : Nat) (path : List Char) : Prop where
  something : path ≠ []
  bare : Bare path
  there : ∃ after, cs.drop i = '[' :: path ++ ']' :: after

/-- The groups of a text from place `n` on: the first one, and then those behind its end. -/
inductive Matches (cs : List Char) : Nat → List (Nat × List Char) → Prop where
  | none {n : Nat} (no : ∀ i path, n ≤ i → ¬GroupAt cs i path) : Matches cs n []
  | next {n i : Nat} {path : List Char} {found : List (Nat × List Char)} (le : n ≤ i)
      (here : GroupAt cs i path) (first : ∀ j other, n ≤ j → j < i → ¬GroupAt cs j other)
      (later : Matches cs (i + path.length + 2) found) : Matches cs n ((i, path) :: found)

theorem GroupAt.unique {cs path path' : List Char} {i : Nat} (h : GroupAt cs i path)
    (h' : GroupAt cs i path') : path = path' := by
  obtain ⟨after, there⟩ := h.there
  obtain ⟨after', there'⟩ := h'.there
  have same : path ++ ']' :: after = path' ++ ']' :: after' :=
    (List.cons.inj (there.symm.trans there')).2
  exact (Division.eq_of_bare_append h.bare h'.bare (by rintro c ⟨⟩; exact .inr rfl)
    (by rintro c ⟨⟩; exact .inr rfl) same).1

/-- A text has its groups in one way. -/
theorem Matches.unique {cs : List Char} {n : Nat} {found found' : List (Nat × List Char)}
    (h : Matches cs n found) (h' : Matches cs n found') : found = found' := by
  induction h generalizing found' with
  | none no =>
    cases h' with
    | none _ => rfl
    | next le here _ _ => exact absurd here (no _ _ le)
  | @next n i path found le here first _ ih =>
    cases h' with
    | none no => exact absurd here (no _ _ le)
    | @next _ j path' found' le' here' first' later' =>
      obtain rfl : i = j := by
        rcases Nat.lt_trichotomy i j with lt | same | lt
        · exact absurd here (first' i path le lt)
        · exact same
        · exact absurd here' (first j path' le' lt)
      obtain rfl := here.unique here'
      rw [ih later']

/-- Places without a group may be passed over. -/
theorem Matches.back {cs : List Char} {n m : Nat} {found : List (Nat × List Char)} (le : n ≤ m)
    (no : ∀ j path, n ≤ j → j < m → ¬GroupAt cs j path) (h : Matches cs m found) :
    Matches cs n found := by
  cases h with
  | none none =>
    refine .none fun i path hi => ?_
    rcases Nat.lt_or_ge i m with lt | ge
    · exact no i path hi lt
    · exact none i path ge
  | next le' here first later =>
    refine .next (Nat.le_trans le le') here (fun j other hj lt => ?_) later
    rcases Nat.lt_or_ge j m with before | ge
    · exact no j other hj before
    · exact first j other ge lt

/-! ## The walk -/

/-- The groups among pieces, each with its place, when the pieces start at place `n`. -/
def groupsFrom (n : Nat) : List Piece → List (Nat × List Char)
  | [] => []
  | .char _ :: ps => groupsFrom (n + 1) ps
  | .group path :: ps => (n, path) :: groupsFrom (n + path.length + 2) ps

theorem groupsFrom_plain (path : List Char) (n : Nat) (ps : List Piece) :
    groupsFrom n (Piece.plain path ++ ps) = groupsFrom (n + path.length + 1) ps := by
  have chars (cs : List Char) (m : Nat) :
      groupsFrom m (cs.map .char ++ ps) = groupsFrom (m + cs.length) ps := by
    induction cs generalizing m with
    | nil => rfl
    | cons c cs ih =>
      show groupsFrom (m + 1) (cs.map .char ++ ps) = _
      rw [ih, List.length_cons]
      congr 1
      omega
  show groupsFrom (n + 1) (path.map .char ++ ps) = _
  rw [chars]
  congr 1
  omega

theorem drop_add_of_drop {cs rest : List Char} {n : Nat} (front : List Char)
    (h : cs.drop n = front ++ rest) : cs.drop (n + front.length) = rest := by
  rw [← List.drop_drop, h, List.drop_left]

theorem GroupAt.head_eq {cs path : List Char} {i : Nat} (h : GroupAt cs i path) :
    (cs.drop i).head? = some '[' := by
  obtain ⟨after, there⟩ := h.there
  rw [there]
  rfl

/-- No group opens within a text without brackets. -/
theorem not_groupAt_inside {cs front rest : List Char} {n : Nat} (bare : Bare front)
    (h : cs.drop n = front ++ rest) {j : Nat} (le : n ≤ j) (lt : j < n + front.length)
    (path : List Char) : ¬GroupAt cs j path := by
  intro group
  obtain ⟨k, rfl⟩ := Nat.exists_eq_add_of_le le
  have inside : k < front.length := by omega
  have head := group.head_eq
  rw [← List.drop_drop, h, List.head?_drop, List.getElem?_append_left inside] at head
  exact bare.1 (List.mem_of_getElem? head)

/-- A bracket that opens no group. -/
theorem not_groupAt_open {cs inside rest : List Char} {n : Nat} (bare : Bare inside)
    (h : cs.drop n = '[' :: inside ++ rest) (stop : inside = [] ∨ rest.head? ≠ some ']')
    (stops : ∀ c ∈ rest.head?, c = '[' ∨ c = ']') (path : List Char) : ¬GroupAt cs n path := by
  intro group
  obtain ⟨after, there⟩ := group.there
  have same : path ++ ']' :: after = inside ++ rest := (List.cons.inj (there.symm.trans h)).2
  obtain ⟨rfl, rfl⟩ := Division.eq_of_bare_append group.bare bare
    (by rintro c ⟨⟩; exact .inr rfl) stops same
  rcases stop with empty | other
  · exact group.something empty
  · exact other rfl

/-- An opening bracket that opens no group may be passed over, with the text behind it. -/
theorem Matches.back_open {cs inside rest : List Char} {n : Nat} {found : List (Nat × List Char)}
    (bare : Bare inside) (h : cs.drop n = '[' :: inside ++ rest)
    (stop : inside = [] ∨ rest.head? ≠ some ']') (stops : ∀ c ∈ rest.head?, c = '[' ∨ c = ']')
    (later : Matches cs (n + inside.length + 1) found) : Matches cs n found := by
  refine .back (by omega) (fun j path le lt => ?_) later
  rcases Nat.eq_or_lt_of_le le with rfl | after
  · exact not_groupAt_open bare h stop stops path
  · have behind : cs.drop (n + 1) = inside ++ rest := drop_add_of_drop ['['] h
    exact not_groupAt_inside bare behind after (by omega) path

theorem Matches.back_char {cs rest : List Char} {n : Nat} {c : Char}
    {found : List (Nat × List Char)} (noOpen : c ≠ '[') (h : cs.drop n = c :: rest)
    (later : Matches cs (n + 1) found) : Matches cs n found := by
  refine .back (by omega) (fun j path le lt group => ?_) later
  obtain rfl : n = j := by omega
  have head := group.head_eq
  rw [h] at head
  exact noOpen (Option.some.inj head)

theorem Matches.at_end {cs : List Char} {n : Nat} (h : cs.drop n = []) : Matches cs n [] := by
  refine .none fun i path le group => ?_
  obtain ⟨k, rfl⟩ := Nat.exists_eq_add_of_le le
  have head := group.head_eq
  rw [← List.drop_drop, h, List.drop_nil] at head
  cases head

/- Outside a bracket, `n` is the place of the walk, and inside, the place where the bracket opened:
whether a group is there is known when the walk has come to the next bracket. -/
theorem matches_piecesFrom (cs rest : List Char) :
    (∀ n, cs.drop n = rest → Matches cs n (groupsFrom n (piecesFrom none rest))) ∧
      ∀ n inside, Bare inside → cs.drop n = '[' :: inside ++ rest →
        Matches cs n (groupsFrom n (piecesFrom (some inside) rest)) := by
  induction rest with
  | nil =>
    refine ⟨fun n here => .at_end here, fun n inside bare here => ?_⟩
    have plain := groupsFrom_plain inside n []
    rw [List.append_nil] at plain
    show Matches cs n (groupsFrom n (Piece.plain inside))
    rw [plain]
    exact .back_open bare here (.inr (by simp)) (by simp) (.at_end (drop_add_of_drop _ here))
  | cons c rest ih =>
    obtain ⟨outside, within⟩ := ih
    refine ⟨fun n here => ?_, fun n inside bare here => ?_⟩
    · by_cases isOpen : c = '['
      · subst isOpen
        exact within n [] bare_nil here
      · simp only [piecesFrom, if_neg isOpen]
        exact .back_char isOpen here (outside (n + 1) (drop_add_of_drop [c] here))
    · by_cases isOpen : c = '['
      · -- The bracket opens again, so that what was read stands for itself.
        subst isOpen
        simp only [piecesFrom, if_true]
        rw [groupsFrom_plain]
        exact .back_open bare here (.inr (by simp)) (by simp)
          (within _ [] bare_nil (drop_add_of_drop _ here))
      · by_cases isClose : c = ']'
        · subst isClose
          simp only [piecesFrom, if_neg isOpen, if_true]
          have closed : cs.drop n = ('[' :: inside ++ [']']) ++ rest := by rw [here]; simp
          have behind : cs.drop (n + inside.length + 2) = rest := by
            simpa [Nat.add_assoc] using drop_add_of_drop _ closed
          by_cases empty : inside = []
          · -- With nothing in between, both brackets stand for themselves.
            subst empty
            rw [if_pos rfl, groupsFrom_plain]
            exact .back_open bare_nil here (.inl rfl) (by simp)
              (.back_char isOpen (drop_add_of_drop ['['] here) (outside _ behind))
          · rw [if_neg empty]
            exact .next (Nat.le_refl n) ⟨empty, bare, rest, here⟩
              (fun j _ le lt => absurd lt (Nat.not_lt.mpr le)) (outside _ behind)
        · simp only [piecesFrom, if_neg isOpen, if_neg isClose]
          exact within n (inside ++ [c]) (bare.append (bare_nil.cons isOpen isClose))
            (by rw [here]; simp)

/-- The groups that the walk finds, each with its place. -/
def groups (pattern : String) : List (Nat × List Char) := groupsFrom 0 (pieces pattern)

/-- In any pattern, the walk finds the groups from left to right. -/
theorem matches_iff {pattern : String} {found : List (Nat × List Char)} :
    Matches pattern.toList 0 found ↔ found = groups pattern := by
  have here : Matches pattern.toList 0 (groups pattern) :=
    (matches_piecesFrom pattern.toList pattern.toList).1 0 rfl
  constructor
  · intro h
    exact h.unique here
  · rintro rfl
    exact here

/-! ## The scan, with the places of the tokens -/

/-- The scan, which keeps with each token the place where its bracket opened. -/
def placed (position : Nat) (opened : Option (Nat × List Char)) :
    List Char → Except Flaw (List (Nat × Token))
  | [] =>
    match opened with
    | none => .ok []
    | some (start, _) => .error ⟨.unterminated, start⟩
  | c :: cs =>
    match opened with
    | none =>
      if c = '[' then placed (position + 1) (some (position, [])) cs
      else if c = ']' then .error ⟨.unmatched, position⟩
      else placed (position + 1) none cs
    | some (start, path) =>
      if c = '[' then .error ⟨.nested, position⟩
      else if c = ']' then do
        let t ← Token.close start path
        let ts ← placed (position + 1) none cs
        return (start, t) :: ts
      else placed (position + 1) (some (start, path ++ [c])) cs

/-- Without the places it is the scan. -/
theorem map_placed (position : Nat) (opened : Option (Nat × List Char)) (cs : List Char) :
    (placed position opened cs).map (List.map Prod.snd) = scan position opened cs := by
  induction cs generalizing position opened with
  | nil => cases opened <;> rfl
  | cons c cs ih =>
    cases opened with
    | none =>
      simp only [placed, scan]
      by_cases isOpen : c = '['
      · rw [if_pos isOpen, if_pos isOpen, ih]
      · rw [if_neg isOpen, if_neg isOpen]
        by_cases isClose : c = ']'
        · rw [if_pos isClose, if_pos isClose]
          rfl
        · rw [if_neg isClose, if_neg isClose, ih]
    | some o =>
      obtain ⟨start, path⟩ := o
      simp only [placed, scan]
      by_cases isOpen : c = '['
      · rw [if_pos isOpen, if_pos isOpen]
        rfl
      · rw [if_neg isOpen, if_neg isOpen]
        by_cases isClose : c = ']'
        · rw [if_pos isClose, if_pos isClose, ← ih]
          cases Token.close start path with
          | error _ => rfl
          | ok t => cases placed (position + 1) none cs <;> rfl
        · rw [if_neg isClose, if_neg isClose, ih]

/-- Around a token that the scan finds, the walk finds a group, at the same place and with the same
segments. -/
theorem groups_of_placed (cs : List Char) :
    (∀ position ts, placed position none cs = .ok ts →
      ts = (groupsFrom position (piecesFrom none cs)).map
        fun m => (m.1, Token.ofPath (String.ofList m.2))) ∧
    ∀ start path ts, placed (start + path.length + 1) (some (start, path)) cs = .ok ts →
      ts = (groupsFrom start (piecesFrom (some path) cs)).map
        fun m => (m.1, Token.ofPath (String.ofList m.2)) := by
  induction cs with
  | nil =>
    refine ⟨fun position ts h => ?_, fun start path ts h => ?_⟩
    · cases h
      rfl
    · cases h
  | cons c cs ih =>
    obtain ⟨outside, within⟩ := ih
    refine ⟨fun position ts h => ?_, fun start path ts h => ?_⟩
    · simp only [placed] at h
      by_cases isOpen : c = '['
      · rw [if_pos isOpen] at h
        subst isOpen
        exact within position [] ts h
      · rw [if_neg isOpen] at h
        split at h
        · cases h
        · simp only [piecesFrom, if_neg isOpen]
          exact outside (position + 1) ts h
    · simp only [placed] at h
      by_cases isOpen : c = '['
      · rw [if_pos isOpen] at h
        cases h
      · rw [if_neg isOpen] at h
        by_cases isClose : c = ']'
        · rw [if_pos isClose] at h
          obtain ⟨t, closed, h⟩ := exists_of_bind h
          obtain ⟨us, rest, h⟩ := exists_of_bind h
          cases h
          obtain ⟨something, rfl, -⟩ := Token.of_close closed
          simp only [piecesFrom, if_neg isOpen, if_pos isClose, if_neg something]
          exact congrArg ((start, Token.ofPath (String.ofList path)) :: ·) (outside _ us rest)
        · rw [if_neg isClose] at h
          have longer : start + path.length + 1 + 1 = start + (path ++ [c]).length + 1 := by
            simp only [List.length_append, List.length_singleton]
            omega
          rw [longer] at h
          simp only [piecesFrom, if_neg isOpen, if_neg isClose]
          exact within start (path ++ [c]) ts h

/-! ## What takes the place of a token -/

/-- What a record holds under a name, null when it holds nothing there. -/
def held (name : String) (record : Entries Value) : Value := (Entries.get? name record).getD .null

/-- Whether a value is a list or a tuple. -/
def isSeries : Value → Bool
  | .series .list _ | .series .tuple _ => true
  | _ => false

/-- The text of a value: none for null. -/
inductive Writes : Value → List Char → Prop where
  | null : Writes .null []
  | value {v : Value} (some : v ≠ .null) : Writes v v.display.toList

/-- What takes the place of a token, and what is reported of it. -/
inductive Token.Gives (record : Entries Value) (t : Token) : List Char → Option Notice → Prop where
  /-- A field of the record itself. -/
  | own {text : List Char} (single : t.rest = []) (writes : Writes (held t.head record) text) :
      Gives record t text none
  /-- A field of the one record that a relation holds. -/
  | related {es : Entries Value} {text : List Char} (several : t.rest ≠ [])
      (one : held t.head record = .mapping es)
      (writes : Writes (held (Text.join "." t.rest) es) text) : Gives record t text none
  /-- A relation that holds many records leaves the token as it is. -/
  | kept (several : t.rest ≠ []) (many : isSeries (held t.head record) = true) :
      Gives record t t.bracketed (some (.manyRecords t.path t.head))
  /-- A relation that holds no record. -/
  | nothing (several : t.rest ≠ []) (few : isSeries (held t.head record) = false)
      (other : ∀ es, held t.head record ≠ .mapping es) : Gives record t [] none

theorem writes_displayOrEmpty (v : Value) : Writes v v.displayOrEmpty.toList := by
  cases v with
  | null => exact .null
  | _ => exact .value (by simp)

/-- A token looks at the value that the record holds under its first segment. -/
theorem Token.replacement_eq (t : Token) (record : Entries Value) :
    t.replacement record =
      if t.rest = [] then .value (held t.head record).displayOrEmpty
      else match held t.head record with
        | .series .list _ | .series .tuple _ => .kept
        | .mapping es => .value (held (Text.join "." t.rest) es).displayOrEmpty
        | _ => .value "" := by
  obtain ⟨head, rest⟩ := t
  cases rest with
  | nil => rfl
  | cons part rest =>
    rw [if_neg (List.cons_ne_nil part rest)]
    have relation : Token.relation? ⟨head, part :: rest⟩ = some head := rfl
    unfold Token.replacement held
    simp only [relation]
    cases Entries.get? head record with
    | none => rfl
    | some v =>
      cases v with
      | series form _ => cases form <;> rfl
      | _ => rfl

theorem Token.replacement_single {t : Token} (single : t.rest = []) (record : Entries Value) :
    t.replacement record = .value (held t.head record).displayOrEmpty := by
  rw [replacement_eq, if_pos single]

theorem Token.replacement_series {t : Token} {record : Entries Value} (several : t.rest ≠ [])
    (many : isSeries (held t.head record) = true) : t.replacement record = .kept := by
  rw [replacement_eq, if_neg several]
  generalize held t.head record = v at many
  cases v with
  | series form _ => cases form <;> first | rfl | cases many
  | _ => cases many

theorem Token.replacement_mapping {t : Token} {record es : Entries Value} (several : t.rest ≠ [])
    (one : held t.head record = .mapping es) :
    t.replacement record = .value (held (Text.join "." t.rest) es).displayOrEmpty := by
  rw [replacement_eq, if_neg several, one]

theorem Token.replacement_nothing {t : Token} {record : Entries Value} (several : t.rest ≠ [])
    (few : isSeries (held t.head record) = false) (other : ∀ es, held t.head record ≠ .mapping es) :
    t.replacement record = .value "" := by
  rw [replacement_eq, if_neg several]
  generalize held t.head record = v at few other
  cases v with
  | series form _ => cases form <;> first | rfl | cases few
  | mapping es => exact absurd rfl (other es)
  | _ => rfl

theorem gives_replaced (t : Token) (record : Entries Value) :
    t.Gives record (t.replaced record) (t.notice? record) := by
  unfold Token.replaced Token.notice?
  by_cases single : t.rest = []
  · rw [Token.replacement_single single]
    exact .own single (writes_displayOrEmpty _)
  · by_cases one : ∃ es, held t.head record = .mapping es
    · obtain ⟨es, one⟩ := one
      rw [Token.replacement_mapping single one]
      exact .related single one (writes_displayOrEmpty _)
    · have other : ∀ es, held t.head record ≠ .mapping es := fun es e => one ⟨es, e⟩
      cases few : isSeries (held t.head record) with
      | true =>
        rw [Token.replacement_series single few]
        exact .kept single few
      | false =>
        rw [Token.replacement_nothing single few other]
        exact .nothing single few other

/-! ## Addresses -/

/-- What an address makes of a pattern with the tokens `ts`. -/
structure Resolves (pattern : String) (ts : List Token) : Prop where
  /-- The groups that are replaced are those of the pattern from left to right. -/
  matched : ∀ found, Matches pattern.toList 0 found ↔ found = groups pattern
  /-- Each is a token that the scan has found, at the same place and with the same segments. -/
  places : placed 0 none pattern.toList
    = .ok ((groups pattern).map fun m => (m.1, Token.ofPath (String.ofList m.2)))
  tokens : (groups pattern).map (fun m => Token.ofPath (String.ofList m.2)) = ts
  paths : (groups pattern).map (fun m => String.ofList m.2) = ts.map Token.path
  /-- The texts between the tokens stay as they are, and one text takes the place of each token. -/
  replaced : ∃ L : Layout, L.fill Token.bracketed = pattern.toList ∧ L.Plain ∧ L.tokens = ts ∧
    ∀ record, (substituted pattern record).toList = L.fill (Token.replaced record)
  gives : ∀ record, ∀ t ∈ ts, t.Gives record (t.replaced record) (t.notice? record)
  /-- The reports come in the order of the tokens. -/
  address : ∀ record, addressOf pattern (.mapping record)
    = .ok ⟨canonical (substituted pattern record), ts.filterMap (Token.notice? record)⟩

theorem exists_placed {pattern : String} {ts : List Token} (h : tokens pattern = .ok ts) :
    ∃ found, placed 0 none pattern.toList = .ok found ∧ found.map Prod.snd = ts := by
  have scanned := scan_of_tokens h
  rw [← map_placed] at scanned
  obtain ⟨found, here, rfl⟩ := exists_of_map scanned
  exact ⟨found, here, rfl⟩

/-- A pattern that scans is resolved token by token, and one that does not fails as the scan does,
whatever the record. -/
theorem resolves (pattern : String) :
    (∀ ts, tokens pattern = .ok ts → Resolves pattern ts) ∧
      ∀ e, tokens pattern = .error e →
        ∀ record, addressOf pattern record = .error (.pattern e) := by
  refine ⟨fun ts scanned => ?_, fun e failed record => ?_⟩
  · obtain ⟨found, here, names⟩ := exists_placed scanned
    obtain ⟨L, describes⟩ := exists_describes scanned
    obtain rfl : ts = L.tokens := Except.ok.inj (scanned.symm.trans describes.tokens)
    obtain rfl := (groups_of_placed pattern.toList).1 0 found here
    rw [List.map_map] at names
    refine ⟨fun found => matches_iff, here, names, ?_, ⟨L, describes.chars, describes.plain, rfl,
      fun record => ?_⟩, fun record t _ => gives_replaced t record, fun record => ?_⟩
    · rw [← names, List.map_map]
      exact List.map_congr_left fun m _ => (Token.path_ofPath _).symm
    · rw [(fill_of_describes describes record).1, String.toList_ofList]
    · unfold addressOf
      rw [scanned]
      show Except.ok (fill pattern record) = _
      unfold fill
      rw [(fill_of_describes describes record).2]
  · unfold addressOf
    rw [failed]
    rfl

/-- A relation with many records that is read twice, a zero, and a value that looks like a token. -/
def tagged : Entries Value :=
  [("tags", .list [.mapping [("name", .text "x")]]), ("n", .int 0), ("title", .text "[n]")]

theorem resolves_tagged :
    Resolves "/[tags.name]/[n]/[title]/[tags.name]"
      [⟨"tags", ["name"]⟩, ⟨"n", []⟩, ⟨"title", []⟩, ⟨"tags", ["name"]⟩] ∧
    addressOf "/[tags.name]/[n]/[title]/[tags.name]" (.mapping tagged)
      = .ok ⟨"/[tags.name]/0/[n]/[tags.name]",
        [.manyRecords "tags.name" "tags", .manyRecords "tags.name" "tags"]⟩ ∧
    ∀ record, addressOf "/[n]/[title" record
      = .error (.pattern (.flawed .unterminated (some 5) "/[n]/[title")) := by
  have scanned : tokens "/[tags.name]/[n]/[title]/[tags.name]"
      = .ok [⟨"tags", ["name"]⟩, ⟨"n", []⟩, ⟨"title", []⟩, ⟨"tags", ["name"]⟩] := by
    cbv
  have failed : tokens "/[n]/[title"
      = .error (.flawed .unterminated (some 5) "/[n]/[title") := by cbv
  have address : addressOf "/[tags.name]/[n]/[title]/[tags.name]" (.mapping tagged)
      = .ok ⟨"/[tags.name]/0/[n]/[tags.name]",
        [.manyRecords "tags.name" "tags", .manyRecords "tags.name" "tags"]⟩ := by cbv
  exact ⟨(resolves _).1 _ scanned, address, (resolves _).2 _ failed⟩

end Pattern
end Sitemap
