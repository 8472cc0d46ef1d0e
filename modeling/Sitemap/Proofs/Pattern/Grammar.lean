/-
The grammar of address patterns.

A segment is one or more word characters and hyphens, perhaps with one line feed behind them, and a
path is one or more segments with dots between them.  A pattern is a text without brackets, and any
number of paths between brackets, each with such a text behind it.  A `Division` is a pattern taken
apart in this way.

The theorem this file exists for is `tokens_iff_division`: the patterns that scan are those that have
a division, a pattern has one division at most, and the tokens are its paths from left to right.

The scan meets the parts of a division one by one, so that the way from a division to the tokens needs
one lemma for each part.  The way back starts from the layout of a pattern that scans.
-/
import Sitemap.Proofs.Outcome
import Sitemap.Proofs.Pattern.Layout

namespace Sitemap
namespace Pattern

/-- One or more word characters and hyphens, perhaps with one line feed behind them. -/
def Segment (cs : List Char) : Prop :=
  ∃ name, name ≠ [] ∧ (∀ c ∈ name, isSegmentChar c = true) ∧ (cs = name ∨ cs = name ++ ['\n'])

/-- One or more segments with dots between them. -/
def IsPath (path : List Char) : Prop :=
  ∃ segments, segments ≠ [] ∧ ['.'].intercalate segments = path ∧ ∀ s ∈ segments, Segment s

/-- A text, and paths each with the text behind it. -/
structure Division where
  lead : List Char
  rest : List (List Char × List Char)
  deriving DecidableEq

namespace Division

def paths (d : Division) : List (List Char) := d.rest.map Prod.fst

def literals (d : Division) : List (List Char) := d.lead :: d.rest.map Prod.snd

/-- Paths between brackets, with the texts behind them. -/
def behind (rest : List (List Char × List Char)) : List Char :=
  rest.flatMap fun e => '[' :: e.1 ++ ']' :: e.2

def chars (d : Division) : List Char := d.lead ++ behind d.rest

/-- No bracket stands in a text or in a path, and the paths are paths. -/
structure WellFormed (d : Division) : Prop where
  literals : ∀ text ∈ d.literals, Bare text
  bare : ∀ path ∈ d.paths, Bare path
  paths : ∀ path ∈ d.paths, IsPath path

theorem WellFormed.lead {d : Division} (h : d.WellFormed) : Bare d.lead :=
  h.literals d.lead List.mem_cons_self

theorem WellFormed.parts {d : Division} (h : d.WellFormed) :
    ∀ e ∈ d.rest, Bare e.1 ∧ IsPath e.1 ∧ Bare e.2 := by
  intro e he
  have path : e.1 ∈ d.paths := List.mem_map_of_mem he
  exact ⟨h.bare e.1 path, h.paths e.1 path,
    h.literals e.2 (List.mem_cons_of_mem _ (List.mem_map_of_mem he))⟩

theorem behind_cons (path text : List Char) (rest : List (List Char × List Char)) :
    behind ((path, text) :: rest) = '[' :: path ++ ']' :: (text ++ behind rest) := by
  simp [behind]

end Division

/-! ## Segments -/

theorem isSegmentEnd_iff {cs : List Char} :
    isSegmentEnd cs = true ↔
      ∃ name, (∀ c ∈ name, isSegmentChar c = true) ∧ (cs = name ∨ cs = name ++ ['\n']) := by
  constructor
  · intro h
    fun_induction isSegmentEnd cs with
    | case1 => exact ⟨[], by simp, .inl rfl⟩
    | case2 => exact ⟨[], by simp, .inr rfl⟩
    | case3 c cs _ ih =>
      obtain ⟨here, rest⟩ := Bool.and_eq_true_iff.mp h
      obtain ⟨name, all, shape⟩ := ih rest
      refine ⟨c :: name, List.forall_mem_cons.mpr ⟨here, all⟩, ?_⟩
      rcases shape with rfl | rfl
      · exact .inl rfl
      · exact .inr rfl
  · rintro ⟨name, all, shape⟩
    induction name generalizing cs with
    | nil => rcases shape with rfl | rfl <;> rfl
    | cons c name ih =>
      obtain ⟨here, rest⟩ := List.forall_mem_cons.mp all
      -- A single line feed is the end of a segment whether or not it is taken for a word character.
      have step {ds : List Char} (h : isSegmentEnd ds = true) : isSegmentEnd (c :: ds) = true := by
        unfold isSegmentEnd
        split
        · rfl
        · rfl
        · next e => cases e; rw [here, h]; rfl
      rcases shape with rfl | rfl
      · exact step (ih rest (.inl rfl))
      · exact step (ih rest (.inr rfl))

theorem isSegment_iff {cs : List Char} : isSegment cs = true ↔ Segment cs := by
  cases cs with
  | nil =>
    constructor
    · intro h
      cases h
    · rintro ⟨name, some, _, shape⟩
      rcases shape with e | e
      · exact absurd e.symm some
      · exact absurd e.symm (by simp)
  | cons c cs =>
    show (isSegmentChar c && isSegmentEnd cs) = true ↔ _
    rw [Bool.and_eq_true_iff, isSegmentEnd_iff]
    constructor
    · rintro ⟨here, name, all, shape⟩
      refine ⟨c :: name, by simp, List.forall_mem_cons.mpr ⟨here, all⟩, ?_⟩
      rcases shape with rfl | rfl
      · exact .inl rfl
      · exact .inr rfl
    · rintro ⟨name, some, all, shape⟩
      obtain ⟨d, name, rfl⟩ := List.exists_cons_of_ne_nil some
      obtain ⟨here, rest⟩ := List.forall_mem_cons.mp all
      rcases shape with e | e
      · cases e
        exact ⟨here, cs, rest, .inl rfl⟩
      · cases e
        exact ⟨here, name, rest, .inr rfl⟩

theorem Segment.sep_not_mem {cs : List Char} (h : Segment cs) : '.' ∉ cs := by
  obtain ⟨name, _, all, shape⟩ := h
  have outside : '.' ∉ name := fun mem => absurd (all _ mem) (by decide)
  rcases shape with rfl | rfl
  · exact outside
  · simpa using outside

/-! ## Paths -/

theorem joinChars_eq_intercalate (sep first : List Char) (others : List (List Char)) :
    Text.joinChars sep first others = sep.intercalate (first :: others) := by
  induction others generalizing first with
  | nil => simp [Text.joinChars, List.intercalate]
  | cons part others ih =>
    rw [Text.joinChars, ih]
    simp [List.intercalate]

theorem valid_iff {t : Token} : t.valid = true ↔ ∀ s ∈ t.segments, Segment s.toList := by
  unfold Token.valid
  rw [List.all_eq_true]
  exact forall₂_congr fun s _ => isSegment_iff

theorem isPath_iff {path : List Char} :
    IsPath path ↔ (Token.ofPath (String.ofList path)).valid = true := by
  have parts : (Token.ofPath (String.ofList path)).segments
      = ((Text.splitChars '.' path).1 :: (Text.splitChars '.' path).2).map String.ofList := by
    simp [Token.ofPath, Token.segments, Text.split]
  rw [valid_iff, parts]
  constructor
  · rintro ⟨segments, some, rfl, all⟩
    obtain ⟨first, others, rfl⟩ := List.exists_cons_of_ne_nil some
    obtain ⟨here, rest⟩ := List.forall_mem_cons.mp all
    rw [← joinChars_eq_intercalate,
      Text.splitChars_joinChars here.sep_not_mem fun part mem => (rest part mem).sep_not_mem]
    intro s hs
    obtain ⟨part, mem, rfl⟩ := List.mem_map.mp hs
    rw [String.toList_ofList]
    exact all part mem
  · intro all
    refine ⟨(Text.splitChars '.' path).1 :: (Text.splitChars '.' path).2, List.cons_ne_nil _ _, ?_,
      fun part mem => ?_⟩
    · rw [← joinChars_eq_intercalate, Text.joinChars_splitChars]
    · have here := all _ (List.mem_map_of_mem mem)
      rwa [String.toList_ofList] at here

theorem IsPath.ne_nil {path : List Char} (h : IsPath path) : path ≠ [] := by
  rintro rfl
  exact absurd (isPath_iff.mp h) (by decide)

instance (path : List Char) : Decidable (IsPath path) := decidable_of_iff _ isPath_iff.symm

instance (cs : List Char) : Decidable (Bare cs) := inferInstanceAs (Decidable (_ ∧ _))

instance (d : Division) : Decidable d.WellFormed :=
  decidable_of_iff ((∀ text ∈ d.literals, Bare text) ∧ (∀ path ∈ d.paths, Bare path) ∧
      ∀ path ∈ d.paths, IsPath path)
    ⟨fun ⟨literals, bare, paths⟩ => ⟨literals, bare, paths⟩,
      fun h => ⟨h.literals, h.bare, h.paths⟩⟩

/-! ## From a division to the tokens -/

theorem Bare.of_cons {c : Char} {cs : List Char} (h : Bare (c :: cs)) :
    c ≠ '[' ∧ c ≠ ']' ∧ Bare cs :=
  ⟨fun e => h.1 (by simp [e]), fun e => h.2 (by simp [e]),
    fun mem => h.1 (List.mem_cons_of_mem _ mem), fun mem => h.2 (List.mem_cons_of_mem _ mem)⟩

theorem scan_bare {text : List Char} (bare : Bare text) (position : Nat) (cs : List Char) :
    scan position none (text ++ cs) = scan (position + text.length) none cs := by
  induction text generalizing position with
  | nil => rfl
  | cons c text ih =>
    obtain ⟨noOpen, noClose, rest⟩ := bare.of_cons
    show scan position none (c :: (text ++ cs)) = _
    rw [scan]
    simp only [if_neg noOpen, if_neg noClose]
    rw [ih rest]
    congr 1
    simp only [List.length_cons]
    omega

theorem scan_inside {more : List Char} (bare : Bare more) (position start : Nat)
    (path cs : List Char) :
    scan position (some (start, path)) (more ++ cs)
      = scan (position + more.length) (some (start, path ++ more)) cs := by
  induction more generalizing position path with
  | nil => rw [List.append_nil]; rfl
  | cons c more ih =>
    obtain ⟨noOpen, noClose, rest⟩ := bare.of_cons
    show scan position (some (start, path)) (c :: (more ++ cs)) = _
    rw [scan]
    simp only [if_neg noOpen, if_neg noClose]
    rw [ih rest, List.append_assoc]
    congr 1
    simp only [List.length_cons]
    omega

theorem scan_bracketed {path : List Char} (bare : Bare path) (valid : IsPath path)
    (position : Nat) (cs : List Char) :
    scan position none ('[' :: path ++ ']' :: cs)
      = (scan (position + path.length + 2) none cs).map
          (Token.ofPath (String.ofList path) :: ·) := by
  have closed : Token.close position path = .ok (Token.ofPath (String.ofList path)) := by
    unfold Token.close
    rw [if_neg valid.ne_nil]
    exact if_pos (isPath_iff.mp valid)
  show scan position none ('[' :: (path ++ ']' :: cs)) = _
  rw [scan]
  simp only [if_true]
  rw [scan_inside bare, List.nil_append, scan]
  simp only [if_neg (by decide : ¬(']' = '[')), if_true]
  rw [closed]
  have after : position + 1 + path.length + 1 = position + path.length + 2 := by omega
  rw [after]
  cases scan (position + path.length + 2) none cs <;> rfl

namespace Division

/-- The paths as tokens. -/
def tokens (d : Division) : List Token :=
  d.paths.map fun path => Token.ofPath (String.ofList path)

theorem scan_behind {rest : List (List Char × List Char)}
    (h : ∀ e ∈ rest, Bare e.1 ∧ IsPath e.1 ∧ Bare e.2) (position : Nat) :
    scan position none (behind rest)
      = .ok (rest.map fun e => Token.ofPath (String.ofList e.1)) := by
  induction rest generalizing position with
  | nil => rfl
  | cons e rest ih =>
    obtain ⟨path, text⟩ := e
    obtain ⟨⟨bare, valid, text_bare⟩, more⟩ := List.forall_mem_cons.mp h
    rw [behind_cons, scan_bracketed bare valid, scan_bare text_bare, ih more]
    rfl

theorem scan_chars {d : Division} (h : d.WellFormed) (position : Nat) :
    scan position none d.chars = .ok d.tokens := by
  rw [chars, scan_bare h.lead, scan_behind h.parts, tokens, paths, List.map_map]
  rfl

/-! ## One division at most -/

/-- Two ways to write a text with a stop behind it, or with nothing, are the same. -/
theorem eq_of_append_eq {stop : Char → Prop} {a b x y : List Char} (ha : ∀ c ∈ a, ¬stop c)
    (hb : ∀ c ∈ b, ¬stop c) (hx : ∀ c ∈ x.head?, stop c) (hy : ∀ c ∈ y.head?, stop c)
    (h : a ++ x = b ++ y) : a = b ∧ x = y := by
  induction a generalizing b with
  | nil =>
    cases b with
    | nil => exact ⟨rfl, h⟩
    | cons c b =>
      obtain rfl : x = c :: (b ++ y) := h
      exact absurd (hx c rfl) (hb c List.mem_cons_self)
  | cons c a ih =>
    cases b with
    | nil =>
      obtain rfl : c :: (a ++ x) = y := h
      exact absurd (hy c rfl) (ha c List.mem_cons_self)
    | cons d b =>
      obtain ⟨rfl, rest⟩ := List.cons.inj h
      obtain ⟨rfl, same⟩ := ih (fun e he => ha e (List.mem_cons_of_mem _ he))
        (fun e he => hb e (List.mem_cons_of_mem _ he)) rest
      exact ⟨rfl, same⟩

theorem eq_of_bare_append {a b x y : List Char} (ha : Bare a) (hb : Bare b)
    (hx : ∀ c ∈ x.head?, c = '[' ∨ c = ']') (hy : ∀ c ∈ y.head?, c = '[' ∨ c = ']')
    (h : a ++ x = b ++ y) : a = b ∧ x = y := by
  have free {cs : List Char} (bare : Bare cs) : ∀ c ∈ cs, ¬(c = '[' ∨ c = ']') := by
    rintro c hc (rfl | rfl)
    · exact bare.1 hc
    · exact bare.2 hc
  exact eq_of_append_eq (free ha) (free hb) hx hy h

theorem head_behind (rest : List (List Char × List Char)) :
    ∀ c ∈ (behind rest).head?, c = '[' ∨ c = ']' := by
  intro c hc
  cases rest with
  | nil => cases hc
  | cons e rest => cases hc; exact .inl rfl

theorem eq_of_behind {rest rest' : List (List Char × List Char)}
    (h : ∀ e ∈ rest, Bare e.1 ∧ IsPath e.1 ∧ Bare e.2)
    (h' : ∀ e ∈ rest', Bare e.1 ∧ IsPath e.1 ∧ Bare e.2)
    (same : behind rest = behind rest') : rest = rest' := by
  induction rest generalizing rest' with
  | nil =>
    cases rest' with
    | nil => rfl
    | cons e rest' => cases same
  | cons e rest ih =>
    cases rest' with
    | nil => cases same
    | cons e' rest' =>
      obtain ⟨path, text⟩ := e
      obtain ⟨path', text'⟩ := e'
      obtain ⟨⟨bare, _, text_bare⟩, more⟩ := List.forall_mem_cons.mp h
      obtain ⟨⟨bare', _, text_bare'⟩, more'⟩ := List.forall_mem_cons.mp h'
      rw [behind_cons, behind_cons] at same
      -- A path ends at its closing bracket, and the text behind it where the next one opens.
      have inside : path ++ ']' :: (text ++ behind rest) = path' ++ ']' :: (text' ++ behind rest') :=
        (List.cons.inj same).2
      obtain ⟨rfl, after⟩ := eq_of_bare_append bare bare' (by rintro c ⟨⟩; exact .inr rfl)
        (by rintro c ⟨⟩; exact .inr rfl) inside
      obtain ⟨rfl, last⟩ := eq_of_bare_append text_bare text_bare' (head_behind rest)
        (head_behind rest') (List.cons.inj after).2
      rw [ih more more' last]

theorem eq_of_chars {d e : Division} (hd : d.WellFormed) (he : e.WellFormed)
    (h : d.chars = e.chars) : d = e := by
  obtain ⟨lead, rest⟩ := d
  obtain ⟨lead', rest'⟩ := e
  obtain ⟨rfl, same⟩ :=
    eq_of_bare_append hd.lead he.lead (head_behind rest) (head_behind rest') h
  have rests : rest = rest' := eq_of_behind hd.parts he.parts same
  rw [rests]

end Division

/-! ## From the tokens to a division -/

theorem valid_of_scan {position : Nat} {opened : Option (Nat × List Char)} {cs : List Char}
    {ts : List Token} (h : scan position opened cs = .ok ts) : ∀ t ∈ ts, t.valid = true := by
  fun_induction scan position opened cs generalizing ts with
  | case1 => cases h; simp
  | case2 => cases h
  | case3 _ _ ih => exact ih h
  | case4 => cases h
  | case5 _ _ _ _ _ ih => exact ih h
  | case6 => cases h
  | case7 _ _ _ _ _ ih =>
    obtain ⟨t, closed, h⟩ := exists_of_bind h
    obtain ⟨us, scanned, h⟩ := exists_of_bind h
    cases h
    exact List.forall_mem_cons.mpr ⟨(Token.of_close closed).2.2, ih scanned⟩
  | case8 _ _ _ _ _ _ _ ih => exact ih h

theorem isPath_of_valid {t : Token} (h : t.valid = true) : IsPath t.path.toList := by
  refine ⟨t.segments.map String.toList, List.cons_ne_nil _ _, ?_, fun part mem => ?_⟩
  · unfold Token.path Token.segments
    rw [Text.toList_join, joinChars_eq_intercalate]
    rfl
  · obtain ⟨s, hs, rfl⟩ := List.mem_map.mp mem
    exact valid_iff.mp h s hs

theorem exists_division {pattern : String} {ts : List Token} (h : tokens pattern = .ok ts) :
    ∃ d : Division, d.WellFormed ∧ d.chars = pattern.toList := by
  obtain ⟨L, chars, plain, found, written⟩ := layout_of_scan (scan_of_tokens h)
  have valid := valid_of_scan (scan_of_tokens h)
  have token {e : Token × List Char} (he : e ∈ L.rest) : e.1 ∈ ts :=
    found ▸ List.mem_map_of_mem he
  refine ⟨⟨L.lead, L.rest.map fun e => (e.1.path.toList, e.2)⟩, ⟨?_, ?_, ?_⟩, ?_⟩
  · refine List.forall_mem_cons.mpr ⟨plain.1, fun text mem => ?_⟩
    rw [List.map_map] at mem
    obtain ⟨e, he, rfl⟩ := List.mem_map.mp mem
    exact plain.2 e he
  · intro path mem
    rw [Division.paths, List.map_map] at mem
    obtain ⟨e, he, rfl⟩ := List.mem_map.mp mem
    exact (written e.1 (token he)).bare
  · intro path mem
    rw [Division.paths, List.map_map] at mem
    obtain ⟨e, he, rfl⟩ := List.mem_map.mp mem
    exact isPath_of_valid (valid e.1 (token he))
  · rw [← chars, Division.chars, Division.behind, Layout.fill, List.flatMap_map]
    congr 2
    funext e
    simp [Token.bracketed]

theorem tokens_of_division {d : Division} {pattern : String} (h : d.WellFormed)
    (chars : d.chars = pattern.toList) : tokens pattern = .ok d.tokens := by
  unfold tokens
  rw [← chars, Division.scan_chars h]
  rfl

theorem Division.fill_tokens (d : Division) :
    Layout.fill Token.bracketed ⟨d.lead, d.tokens.zip (d.rest.map Prod.snd)⟩ = d.chars := by
  have pairs : d.tokens.zip (d.rest.map Prod.snd)
      = d.rest.map fun e => (Token.ofPath (String.ofList e.1), e.2) := by
    unfold tokens paths
    rw [List.map_map, List.zip_map']
    rfl
  unfold Layout.fill chars behind
  rw [pairs, List.flatMap_map]
  congr 2
  funext e
  simp [Token.bracketed, Token.path_ofPath]

/-- A pattern scans exactly when it is made of texts without brackets and of bracketed paths.  It is
so in one way, the tokens are the paths in their order, and they give the pattern back between the
texts. -/
theorem tokens_iff_division (pattern : String) :
    ((∃ ts, tokens pattern = .ok ts) ↔
        ∃ d : Division, d.WellFormed ∧ d.chars = pattern.toList) ∧
      ∀ d : Division, d.WellFormed → d.chars = pattern.toList →
        (∀ e : Division, e.WellFormed → e.chars = pattern.toList → e = d) ∧
        ∃ ts, tokens pattern = .ok ts ∧
          ts.map (fun t => Text.join "." t.segments) = d.paths.map String.ofList ∧
          (∀ t ∈ ts, ∀ s ∈ t.segments, Segment s.toList) ∧
          Layout.fill Token.bracketed ⟨d.lead, ts.zip (d.rest.map Prod.snd)⟩ = pattern.toList := by
  constructor
  · constructor
    · rintro ⟨ts, scanned⟩
      exact exists_division scanned
    · rintro ⟨d, formed, chars⟩
      exact ⟨d.tokens, tokens_of_division formed chars⟩
  · intro d formed chars
    have scanned := tokens_of_division formed chars
    constructor
    · intro e formed' chars'
      exact Division.eq_of_chars formed' formed (chars'.trans chars.symm)
    · refine ⟨d.tokens, scanned, ?_, ?_, ?_⟩
      · unfold Division.tokens
        rw [List.map_map]
        exact List.map_congr_left fun path _ => Token.path_ofPath (String.ofList path)
      · intro t ht
        exact valid_iff.mp (valid_of_scan (scan_of_tokens scanned) t ht)
      · rw [Division.fill_tokens, chars]

/-- A path that is read twice, and a segment with a line feed behind it. -/
def twice : Division := ⟨"/".toList, [("a.b".toList, "-".toList), ("a.b".toList, "/".toList),
  ("c\n".toList, [])]⟩

theorem tokens_iff_twice :
    twice.WellFormed ∧ twice.chars = "/[a.b]-[a.b]/[c\n]".toList ∧
      tokens "/[a.b]-[a.b]/[c\n]" = .ok [⟨"a", ["b"]⟩, ⟨"a", ["b"]⟩, ⟨"c\n", []⟩] ∧
      ∀ e : Division, e.WellFormed → e.chars = "/[a.b]-[a.b]/[c\n]".toList → e = twice := by
  have formed : twice.WellFormed := by decide
  have chars : twice.chars = "/[a.b]-[a.b]/[c\n]".toList := by decide
  obtain ⟨unique, _⟩ :=
    (tokens_iff_division "/[a.b]-[a.b]/[c\n]").2 twice formed chars
  exact ⟨formed, chars, rfl, unique⟩

end Pattern
end Sitemap
