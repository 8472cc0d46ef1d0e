/-
The layout of an address pattern: texts without brackets, and tokens between them.

Every pattern that scans has a layout, whose tokens are those that the scan finds:
`exists_describes`.  The walk that replaces bracket groups is another one, but on a layout it finds
the same tokens and texts: `pieces_of_describes`.  So an address is the layout with a text in place
of each token: `address_of_describes`.
-/
import Mathlib.Data.List.Basic
import Sitemap.Pattern.Address

namespace Sitemap
namespace Pattern

/-- A text without brackets. -/
def Bare (cs : List Char) : Prop := '[' ∉ cs ∧ ']' ∉ cs

/-- A text, and tokens each with the text behind it. -/
structure Layout where
  lead : List Char
  rest : List (Token × List Char)

namespace Layout

def tokens (L : Layout) : List Token := L.rest.map Prod.fst

/-- The characters with a text in place of every token. -/
def fill (text : Token → List Char) (L : Layout) : List Char :=
  L.lead ++ L.rest.flatMap fun e => text e.1 ++ e.2

def Plain (L : Layout) : Prop := Bare L.lead ∧ ∀ e ∈ L.rest, Bare e.2

end Layout

/-- A token between its brackets. -/
def Token.bracketed (t : Token) : List Char := '[' :: t.path.toList ++ [']']

/-- A token that can stand between brackets, and is read from there again. -/
structure Token.Written (t : Token) : Prop where
  bare : Bare t.path.toList
  something : t.path.toList ≠ []
  again : Token.ofPath t.path = t

/-- The layout of a pattern. -/
structure Layout.Describes (L : Layout) (pattern : String) : Prop where
  chars : L.fill Token.bracketed = pattern.toList
  plain : L.Plain
  tokens : Pattern.tokens pattern = .ok L.tokens

/-! ## The scan -/

theorem bare_nil : Bare [] := ⟨by simp, by simp⟩

theorem Bare.cons {c : Char} {cs : List Char} (h : Bare cs) (no : c ≠ '[') (no' : c ≠ ']') :
    Bare (c :: cs) :=
  ⟨by simp [h.1, Ne.symm no], by simp [h.2, Ne.symm no']⟩

theorem Bare.append {cs ds : List Char} (h : Bare cs) (h' : Bare ds) : Bare (cs ++ ds) :=
  ⟨by simp [h.1, h'.1], by simp [h.2, h'.2]⟩

theorem Token.of_close {start : Nat} {path : List Char} {t : Token}
    (h : Token.close start path = .ok t) :
    path ≠ [] ∧ t = Token.ofPath (String.ofList path) ∧ t.valid = true := by
  unfold Token.close at h
  by_cases empty : path = []
  · rw [if_pos empty] at h
    cases h
  · rw [if_neg empty] at h
    split at h
    · next valid =>
      cases h
      exact ⟨empty, rfl, valid⟩
    · cases h

theorem Token.written_of_close {start : Nat} {path : List Char} {t : Token} (bare : Bare path)
    (h : Token.close start path = .ok t) : t.path.toList = path ∧ t.Written := by
  obtain ⟨something, rfl, -⟩ := Token.of_close h
  have path_eq : (Token.ofPath (String.ofList path)).path = String.ofList path :=
    Token.path_ofPath _
  have chars : (Token.ofPath (String.ofList path)).path.toList = path := by
    rw [path_eq, String.toList_ofList]
  refine ⟨chars, ?_, ?_, ?_⟩
  · rw [chars]; exact bare
  · rw [chars]; exact something
  · rw [path_eq]

/-- What the scan has found in the rest of a pattern, outside a bracket and inside. -/
theorem layout_of_scan {position : Nat} {opened : Option (Nat × List Char)} {cs : List Char}
    {ts : List Token} (h : scan position opened cs = .ok ts) :
    match opened with
    | none => ∃ L : Layout, L.fill Token.bracketed = cs ∧ L.Plain ∧ L.tokens = ts ∧
        ∀ t ∈ ts, t.Written
    | some (_, path) => Bare path → ∃ (t : Token) (more : List Char) (L : Layout),
        t.path.toList = path ++ more ∧ more ++ ']' :: L.fill Token.bracketed = cs ∧ L.Plain ∧
          t :: L.tokens = ts ∧ ∀ t ∈ ts, t.Written := by
  induction cs generalizing position opened ts with
  | nil =>
    cases opened with
    | none =>
      cases h
      exact ⟨⟨[], []⟩, rfl, ⟨bare_nil, by simp⟩, rfl, by simp⟩
    | some o => cases h
  | cons c cs ih =>
    cases opened with
    | none =>
      simp only [scan] at h
      by_cases isOpen : c = '['
      · rw [if_pos isOpen] at h
        obtain ⟨t, more, L, path, chars, plain, tokens, written⟩ := ih h bare_nil
        refine ⟨⟨[], (t, L.lead) :: L.rest⟩, ?_, ⟨bare_nil, ?_⟩, tokens, written⟩
        · rw [← chars, isOpen]
          simp [Layout.fill, Token.bracketed, path]
        · intro e he
          rcases List.mem_cons.mp he with rfl | he
          · exact plain.1
          · exact plain.2 e he
      · rw [if_neg isOpen] at h
        by_cases isClose : c = ']'
        · rw [if_pos isClose] at h
          cases h
        · rw [if_neg isClose] at h
          obtain ⟨L, chars, plain, tokens, written⟩ := ih h
          refine ⟨⟨c :: L.lead, L.rest⟩, ?_, ⟨plain.1.cons isOpen isClose, plain.2⟩, tokens,
            written⟩
          rw [← chars]
          rfl
    | some o =>
      obtain ⟨start, path⟩ := o
      intro bare
      simp only [scan] at h
      by_cases isOpen : c = '['
      · rw [if_pos isOpen] at h
        cases h
      · rw [if_neg isOpen] at h
        by_cases isClose : c = ']'
        · rw [if_pos isClose] at h
          cases closed : Token.close start path with
          | error e => rw [closed] at h; cases h
          | ok t =>
            cases scanned : scan (position + 1) none cs with
            | error e => rw [closed, scanned] at h; cases h
            | ok us =>
              rw [closed, scanned] at h
              cases h
              obtain ⟨L, chars, plain, tokens, written⟩ := ih scanned
              obtain ⟨same, new⟩ := Token.written_of_close bare closed
              refine ⟨t, [], L, by rw [same, List.append_nil], ?_, plain, by rw [tokens], ?_⟩
              · rw [chars, isClose]
                rfl
              · intro u hu
                rcases List.mem_cons.mp hu with rfl | hu
                · exact new
                · exact written u hu
        · rw [if_neg isClose] at h
          obtain ⟨t, more, L, same, chars, plain, tokens, written⟩ :=
            ih h (bare.append (bare_nil.cons isOpen isClose))
          refine ⟨t, c :: more, L, ?_, ?_, plain, tokens, written⟩
          · rw [same, List.append_assoc]
            rfl
          · rw [← chars]
            rfl

theorem scan_of_tokens {pattern : String} {ts : List Token} (h : tokens pattern = .ok ts) :
    scan 0 none pattern.toList = .ok ts := by
  unfold tokens at h
  cases scanned : scan 0 none pattern.toList with
  | error e => rw [scanned] at h; cases h
  | ok us => rw [scanned] at h; cases h; rfl

theorem exists_describes {pattern : String} {ts : List Token} (h : tokens pattern = .ok ts) :
    ∃ L : Layout, L.Describes pattern := by
  obtain ⟨L, chars, plain, found, _⟩ := layout_of_scan (scan_of_tokens h)
  exact ⟨L, chars, plain, by rw [found]; exact h⟩

theorem written_of_tokens {pattern : String} {ts : List Token} (h : tokens pattern = .ok ts) :
    ∀ t ∈ ts, t.Written := by
  obtain ⟨_, _, _, _, written⟩ := layout_of_scan (scan_of_tokens h)
  exact written

/-! ## The walk that finds the groups -/

theorem piecesFrom_bare {text cs : List Char} (bare : Bare text) :
    piecesFrom none (text ++ cs) = text.map .char ++ piecesFrom none cs := by
  induction text with
  | nil => rfl
  | cons c text ih =>
    have noOpen : c ≠ '[' := fun e => bare.1 (by simp [e])
    have rest : Bare text := ⟨fun h => bare.1 (List.mem_cons_of_mem _ h),
      fun h => bare.2 (List.mem_cons_of_mem _ h)⟩
    show piecesFrom none (c :: (text ++ cs)) = .char c :: (text.map .char ++ piecesFrom none cs)
    rw [piecesFrom]
    simp only [if_neg noOpen]
    rw [ih rest]

theorem piecesFrom_path {path more cs : List Char} (bare : Bare more) :
    piecesFrom (some path) (more ++ cs) = piecesFrom (some (path ++ more)) cs := by
  induction more generalizing path with
  | nil => rw [List.append_nil]; rfl
  | cons c more ih =>
    have noOpen : c ≠ '[' := fun e => bare.1 (by simp [e])
    have noClose : c ≠ ']' := fun e => bare.2 (by simp [e])
    have rest : Bare more := ⟨fun h => bare.1 (List.mem_cons_of_mem _ h),
      fun h => bare.2 (List.mem_cons_of_mem _ h)⟩
    show piecesFrom (some path) (c :: (more ++ cs)) = _
    rw [piecesFrom]
    simp only [if_neg noOpen, if_neg noClose]
    rw [ih rest, List.append_assoc]
    rfl

theorem piecesFrom_bracketed {t : Token} (h : t.Written) (cs : List Char) :
    piecesFrom none (t.bracketed ++ cs) = .group t.path.toList :: piecesFrom none cs := by
  have shape : t.bracketed ++ cs = '[' :: (t.path.toList ++ ']' :: cs) := by
    simp [Token.bracketed]
  rw [shape, piecesFrom]
  simp only [if_true]
  rw [piecesFrom_path h.bare, List.nil_append, piecesFrom]
  simp [h.something]

theorem pieces_of_describes {L : Layout} {pattern : String} (h : L.Describes pattern) :
    pieces pattern = L.lead.map .char ++
      L.rest.flatMap fun e => .group e.1.path.toList :: e.2.map .char := by
  have written := written_of_tokens h.tokens
  have behind (rest : List (Token × List Char)) (plain : ∀ e ∈ rest, Bare e.2)
      (written : ∀ e ∈ rest, e.1.Written) :
      piecesFrom none (rest.flatMap fun e => e.1.bracketed ++ e.2)
        = rest.flatMap fun e => .group e.1.path.toList :: e.2.map .char := by
    induction rest with
    | nil => rfl
    | cons e rest ih =>
      have here := plain e List.mem_cons_self
      rw [List.flatMap_cons, List.flatMap_cons, List.append_assoc,
        piecesFrom_bracketed (written e List.mem_cons_self), piecesFrom_bare here,
        ih (fun x hx => plain x (List.mem_cons_of_mem _ hx))
          fun x hx => written x (List.mem_cons_of_mem _ hx)]
      rfl
  rw [pieces, ← h.chars, Layout.fill, piecesFrom_bare h.plain.1,
    behind L.rest h.plain.2 fun e he => written e.1 (List.mem_map_of_mem he)]

/-- The text of a token in an address. -/
def Token.replaced (record : Entries Value) (t : Token) : List Char :=
  match t.replacement record with
  | .value text => text.toList
  | .kept => t.bracketed

/-- What is reported of a token. -/
def Token.notice? (record : Entries Value) (t : Token) : Option Notice :=
  match t.replacement record with
  | .value _ => none
  | .kept => some (.manyRecords t.path t.head)

theorem fill_group {t : Token} (h : t.Written) (record : Entries Value) :
    (Piece.group t.path.toList).fill record = t.replaced record ∧
      (Piece.group t.path.toList).notice? record = t.notice? record := by
  have again := h.again
  cases kind : t.replacement record with
  | value text => simp [Piece.fill, Piece.notice?, Token.replaced, Token.notice?, again, kind]
  | kept =>
    simp [Piece.fill, Piece.notice?, Token.replaced, Token.notice?, Token.bracketed, again, kind]

theorem fill_of_describes {L : Layout} {pattern : String} (h : L.Describes pattern)
    (record : Entries Value) :
    substituted pattern record = String.ofList (L.fill (Token.replaced record)) ∧
      (pieces pattern).filterMap (·.notice? record) = L.tokens.filterMap (Token.notice? record) := by
  have written := written_of_tokens h.tokens
  have chars (text : List Char) : (text.map Piece.char).flatMap (·.fill record) = text ∧
      (text.map Piece.char).filterMap (·.notice? record) = [] := by
    induction text with
    | nil => exact ⟨rfl, rfl⟩
    | cons c text ih => exact ⟨congrArg (c :: ·) ih.1, ih.2⟩
  have behind (rest : List (Token × List Char)) (written : ∀ e ∈ rest, e.1.Written) :
      (rest.flatMap fun e => .group e.1.path.toList :: e.2.map Piece.char).flatMap (·.fill record)
          = rest.flatMap (fun e => e.1.replaced record ++ e.2) ∧
        (rest.flatMap fun e => .group e.1.path.toList :: e.2.map Piece.char).filterMap
            (·.notice? record)
          = (rest.map Prod.fst).filterMap (Token.notice? record) := by
    induction rest with
    | nil => exact ⟨rfl, rfl⟩
    | cons e rest ih =>
      obtain ⟨texts, notices⟩ := ih fun x hx => written x (List.mem_cons_of_mem _ hx)
      obtain ⟨text, notice⟩ := fill_group (written e List.mem_cons_self) record
      constructor
      · rw [List.flatMap_cons, List.flatMap_append, List.flatMap_cons, texts, (chars e.2).1, text]
        rfl
      · rw [List.flatMap_cons, List.filterMap_append, List.filterMap_cons, notices, (chars e.2).2,
          notice, List.map_cons, List.filterMap_cons]
        cases e.1.notice? record <;> rfl
  obtain ⟨texts, notices⟩ := behind L.rest fun e he => written e.1 (List.mem_map_of_mem he)
  unfold substituted
  rw [pieces_of_describes h, List.flatMap_append, List.filterMap_append, (chars L.lead).1,
    (chars L.lead).2, texts, notices]
  exact ⟨rfl, rfl⟩

theorem address_of_describes {L : Layout} {pattern : String} (h : L.Describes pattern)
    (record : Entries Value) :
    address pattern record = .ok
      ⟨canonical (String.ofList (L.fill (Token.replaced record))),
        L.tokens.filterMap (Token.notice? record)⟩ := by
  obtain ⟨texts, notices⟩ := fill_of_describes h record
  unfold address
  rw [h.tokens]
  show Except.ok (fill pattern record) = _
  unfold fill
  rw [texts, notices]

/-- Records that replace each token alike make the same address. -/
theorem address_eq_of_replacement {pattern : String} {ts : List Token} {a b : Entries Value}
    (scanned : tokens pattern = .ok ts) (same : ∀ t ∈ ts, t.replacement a = t.replacement b) :
    ∃ A, address pattern a = .ok A ∧ address pattern b = .ok A := by
  obtain ⟨L, describes⟩ := exists_describes scanned
  obtain rfl : ts = L.tokens := Except.ok.inj (scanned.symm.trans describes.tokens)
  have each (t : Token) (ht : t ∈ L.tokens) :
      t.replaced a = t.replaced b ∧ t.notice? a = t.notice? b := by
    unfold Token.replaced Token.notice?
    rw [same t ht]
    exact ⟨rfl, rfl⟩
  have texts : L.fill (Token.replaced a) = L.fill (Token.replaced b) := by
    unfold Layout.fill
    congr 1
    apply List.flatMap_congr
    intro e he
    rw [(each e.1 (List.mem_map_of_mem he)).1]
  have notices : L.tokens.filterMap (Token.notice? a) = L.tokens.filterMap (Token.notice? b) :=
    List.filterMap_congr fun t ht => (each t ht).2
  refine ⟨_, address_of_describes describes a, ?_⟩
  rw [address_of_describes describes b, texts, notices]

end Pattern
end Sitemap
