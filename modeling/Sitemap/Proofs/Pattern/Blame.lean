/-
Where a pattern is blamed that does not scan.

`Blames` says what is wrong at a place of a text, by the characters before it and behind it, without
the position and the open bracket that the scan carries along.  A pattern fails to scan exactly when
one of its places is to blame, which is then the only one, and is to blame for one reason.  A flaw
that has been met stays the first one whatever follows, and behind a text that scans by itself the
scan goes on as it starts: `blames_exactly`.

The scan is followed by what it has read: `Reached` says where it stands, outside a bracket or
inside one, and is kept by every character up to the flaw.
-/
import Sitemap.Proofs.Pattern.Grammar

namespace Sitemap
namespace Pattern

/-- A text that scans by itself. -/
def Parses (cs : List Char) : Prop := ∃ ts, tokens (String.ofList cs) = .ok ts

/-- What is wrong with a text at the place `n`. -/
inductive Blames (cs : List Char) (n : Nat) : Cause → Prop where
  /-- A bracket closes behind a text that scans. -/
  | unmatched (there : cs[n]? = some ']') (parses : Parses (cs.take n)) : Blames cs n .unmatched
  /-- A bracket opens, and one that opened before it has not been closed. -/
  | nested {before inside : List Char} (there : cs[n]? = some '[')
      (shape : cs.take n = before ++ '[' :: inside) (parses : Parses before) (bare : Bare inside) :
      Blames cs n .nested
  /-- A bracket opens and none is behind it. -/
  | unterminated (there : cs[n]? = some '[') (parses : Parses (cs.take n))
      (bare : Bare (cs.drop (n + 1))) : Blames cs n .unterminated
  /-- A bracket opens and closes at once. -/
  | empty {after : List Char} (there : cs[n]? = some '[') (parses : Parses (cs.take n))
      (closed : cs.drop (n + 1) = ']' :: after) : Blames cs n .empty
  /-- A bracket opens and closes around a text, of whose parts between dots one is no segment. -/
  | invalidPath {path after : List Char} (there : cs[n]? = some '[') (parses : Parses (cs.take n))
      (closed : cs.drop (n + 1) = path ++ ']' :: after) (bare : Bare path) (something : path ≠ [])
      (wrong : ∃ part ∈ Text.parts '.' (String.ofList path), ¬Segment part.toList) :
      Blames cs n (.invalidPath (String.ofList path))

variable {position start : Nat} {opened : Option (Nat × List Char)} {path cs ds : List Char}
  {ts : List Token} {f : Flaw}

/-! ## Scanning part by part -/

theorem scan_open (position : Nat) (cs : List Char) :
    scan position none ('[' :: cs) = scan (position + 1) (some (position, [])) cs := by
  rw [scan]
  simp only [if_true]

theorem scan_unmatched (position : Nat) (cs : List Char) :
    scan position none (']' :: cs) = .error ⟨.unmatched, position⟩ := by
  rw [scan]
  simp only [if_neg (by decide : ¬(']' = '[')), if_true]

theorem scan_nested (position start : Nat) (path cs : List Char) :
    scan position (some (start, path)) ('[' :: cs) = .error ⟨.nested, position⟩ := by
  rw [scan]
  simp only [if_true]

theorem scan_close (position start : Nat) (path cs : List Char) :
    scan position (some (start, path)) (']' :: cs)
      = Token.close start path >>= fun t => (scan (position + 1) none cs).map (t :: ·) := by
  rw [scan]
  simp only [if_neg (by decide : ¬(']' = '[')), if_true]
  cases Token.close start path with
  | error e => rfl
  | ok t => cases scan (position + 1) none cs <;> rfl

theorem scan_other {c : Char} (noOpen : c ≠ '[') (noClose : c ≠ ']') (position : Nat)
    (opened : Option (Nat × List Char)) (cs : List Char) :
    scan position opened (c :: cs)
      = scan (position + 1) (opened.map fun o => (o.1, o.2 ++ [c])) cs := by
  cases opened with
  | none =>
    rw [scan]
    simp only [if_neg noOpen, if_neg noClose, Option.map_none]
  | some o =>
    rw [scan]
    simp only [if_neg noOpen, if_neg noClose, Option.map_some]

theorem add_length_cons (position : Nat) (c : Char) (cs : List Char) :
    position + (c :: cs).length = position + 1 + cs.length := by
  rw [List.length_cons]
  omega

/-- Behind a text that scans by itself, the scan goes on as it starts. -/
theorem scan_append_of_ok (h : scan position opened cs = .ok ts) (ds : List Char) :
    scan position opened (cs ++ ds) = (scan (position + cs.length) none ds).map (ts ++ ·) := by
  fun_induction scan position opened cs generalizing ts with
  | case1 =>
    cases h
    show scan _ none ds = (scan _ none ds).map id
    cases scan _ none ds <;> rfl
  | case2 => cases h
  | case3 position cs ih =>
    rw [List.cons_append, scan_open, ih h, add_length_cons]
  | case4 => cases h
  | case5 position c cs noOpen noClose ih =>
    rw [List.cons_append, scan_other noOpen noClose, Option.map_none, ih h, add_length_cons]
  | case6 => cases h
  | case7 position cs start path _ ih =>
    obtain ⟨t, closed, h⟩ := exists_of_bind h
    obtain ⟨us, scanned, h⟩ := exists_of_bind h
    cases h
    rw [List.cons_append, scan_close, closed, ih scanned, add_length_cons]
    cases scan (position + 1 + cs.length) none ds <;> rfl
  | case8 position c cs start path noOpen noClose ih =>
    rw [List.cons_append, scan_other noOpen noClose, Option.map_some, ih h, add_length_cons]

/-- A flaw that has been met is met whatever follows. -/
theorem scan_append_of_error (h : scan position opened cs = .error f)
    (met : f.cause ≠ .unterminated) (ds : List Char) :
    scan position opened (cs ++ ds) = .error f := by
  fun_induction scan position opened cs with
  | case1 => cases h
  | case2 =>
    cases h
    exact absurd rfl met
  | case3 position cs ih => rw [List.cons_append, scan_open, ih h]
  | case4 position cs =>
    rw [List.cons_append, scan_unmatched, h]
  | case5 position c cs noOpen noClose ih =>
    rw [List.cons_append, scan_other noOpen noClose, Option.map_none, ih h]
  | case6 position cs start path => rw [List.cons_append, scan_nested, h]
  | case7 position cs start path _ ih =>
    rw [List.cons_append, scan_close]
    cases closed : Token.close start path with
    | error e =>
      rw [closed] at h
      exact h
    | ok t =>
      rw [closed] at h
      cases scanned : scan (position + 1) none cs with
      | error e =>
        rw [scanned] at h
        rw [ih (scanned.trans h)]
        rfl
      | ok us =>
        rw [scanned] at h
        cases h
  | case8 position c cs start path noOpen noClose ih =>
    rw [List.cons_append, scan_other noOpen noClose, Option.map_some, ih h]

/-- The flaw of a text that stands further on in a pattern. -/
def Flaw.shift (k : Nat) (f : Flaw) : Flaw := ⟨f.cause, k + f.position⟩

theorem Token.close_shift (k start : Nat) (path : List Char) :
    Token.close (k + start) path = (Token.close start path).mapError (Flaw.shift k) := by
  unfold Token.close
  split
  · rfl
  · simp only
    split <;> rfl

theorem scan_shift (k position : Nat) (opened : Option (Nat × List Char)) (cs : List Char) :
    scan (k + position) (opened.map fun o => (k + o.1, o.2)) cs
      = (scan position opened cs).mapError (Flaw.shift k) := by
  fun_induction scan position opened cs with
  | case1 => rfl
  | case2 => rfl
  | case3 position cs ih => rw [Option.map_none, scan_open]; exact ih
  | case4 position cs => rw [Option.map_none, scan_unmatched]; rfl
  | case5 position c cs noOpen noClose ih =>
    rw [scan_other noOpen noClose]; exact ih
  | case6 position cs start path => rw [Option.map_some, scan_nested]; rfl
  | case7 position cs start path _ ih =>
    rw [Option.map_some, scan_close, Token.close_shift]
    have ih : scan (k + position + 1) none cs = _ := ih
    rw [ih]
    cases Token.close start path with
    | error e => rfl
    | ok t => cases scan (position + 1) none cs <;> rfl
  | case8 position c cs start path noOpen noClose ih =>
    rw [scan_other noOpen noClose]; exact ih

/-! ## Places that are to blame -/

theorem parses_iff {cs : List Char} : Parses cs ↔ ∃ ts, scan 0 none cs = .ok ts := by
  unfold Parses tokens
  rw [String.toList_ofList]
  constructor
  · rintro ⟨ts, h⟩
    exact ⟨ts, ok_of_mapError h⟩
  · rintro ⟨ts, h⟩
    exact ⟨ts, by rw [h]; rfl⟩

theorem Parses.append (h : Parses cs) {ts : List Token} (h' : scan cs.length none ds = .ok ts) :
    Parses (cs ++ ds) := by
  obtain ⟨us, scanned⟩ := parses_iff.mp h
  refine parses_iff.mpr ⟨us ++ ts, ?_⟩
  rw [scan_append_of_ok scanned, Nat.zero_add, h']
  rfl

theorem scan_of_parses (h : Parses cs) {f : Flaw} (h' : scan cs.length none ds = .error f) :
    scan 0 none (cs ++ ds) = .error f := by
  obtain ⟨us, scanned⟩ := parses_iff.mp h
  rw [scan_append_of_ok scanned, Nat.zero_add, h']
  rfl

theorem close_eq_ok_iff {t : Token} :
    Token.close start path = .ok t ↔
      path ≠ [] ∧ IsPath path ∧ t = Token.ofPath (String.ofList path) := by
  constructor
  · intro h
    obtain ⟨something, rfl, valid⟩ := Token.of_close h
    exact ⟨something, isPath_iff.mpr valid, rfl⟩
  · rintro ⟨something, valid, rfl⟩
    unfold Token.close
    rw [if_neg something]
    exact if_pos (isPath_iff.mp valid)

theorem isPath_iff_parts {path : List Char} :
    IsPath path ↔ ∀ part ∈ Text.parts '.' (String.ofList path), Segment part.toList := by
  rw [isPath_iff, valid_iff, Token.segments_ofPath]

/-- A bracket that closes around no path is blamed on the one that opened. -/
theorem close_eq_error_iff :
    Token.close start path = .error f ↔
      path = [] ∧ f = ⟨.empty, start⟩ ∨
        path ≠ [] ∧ ¬IsPath path ∧ f = ⟨.invalidPath (String.ofList path), start⟩ := by
  unfold Token.close
  by_cases empty : path = []
  · rw [if_pos empty]
    simp [empty, eq_comm]
  · rw [if_neg empty, isPath_iff]
    split
    · next valid => simp [empty, valid]
    · next wrong => simp [empty, wrong, eq_comm]

/-- How far the scan has come: outside a bracket, or inside one that opened behind a text that scans
by itself. -/
inductive Reached : List Char → Option (Nat × List Char) → Prop where
  | outside {before : List Char} (parses : Parses before) : Reached before none
  | inside {before path : List Char} (parses : Parses before) (bare : Bare path) :
      Reached (before ++ '[' :: path) (some (before.length, path))

theorem Reached.other {before : List Char} {c : Char} (h : Reached before opened)
    (noOpen : c ≠ '[') (noClose : c ≠ ']') :
    Reached (before ++ [c]) (opened.map fun o => (o.1, o.2 ++ [c])) := by
  have bare : Bare [c] := bare_nil.cons noOpen noClose
  cases h with
  | outside parses =>
    have scanned : scan before.length none [c] = .ok [] := scan_other noOpen noClose _ none []
    exact .outside (parses.append scanned)
  | @inside before path parses inside =>
    rw [List.append_assoc]
    exact .inside parses (inside.append bare)

theorem getElem?_length_append (before : List Char) (c : Char) (cs : List Char) :
    (before ++ c :: cs)[before.length]? = some c := by
  rw [List.getElem?_append_right (Nat.le_refl _), Nat.sub_self]
  rfl

/-- The first flaw that the scan meets is at a place that is to blame. -/
theorem Reached.blames {before cs : List Char} (h : Reached before opened)
    (failed : scan before.length opened cs = .error f) :
    Blames (before ++ cs) f.position f.cause := by
  induction cs generalizing before opened with
  | nil =>
    cases h with
    | outside _ => cases failed
    | @inside before path parses bare =>
      cases failed
      rw [List.append_nil]
      refine .unterminated (getElem?_length_append _ _ _) ?_ ?_
      · rwa [List.take_left]
      · rw [List.drop_length_add_append]
        exact bare
  | cons c cs ih =>
    -- What has been read is one character longer when the scan goes on.
    have longer (d : Char) : before ++ d :: cs = before ++ [d] ++ cs := by
      rw [List.append_assoc]
      rfl
    have next (d : Char) : before.length + 1 = (before ++ [d]).length := by
      rw [List.length_append]
      rfl
    by_cases isOpen : c = '['
    · subst isOpen
      cases h with
      | outside parses =>
        rw [scan_open, next '['] at failed
        rw [longer]
        exact ih (.inside parses bare_nil) failed
      | @inside first path parses bare =>
        rw [scan_nested] at failed
        cases failed
        refine .nested (getElem?_length_append _ _ _) ?_ parses bare
        rw [List.take_left]
    · by_cases isClose : c = ']'
      · subst isClose
        cases h with
        | outside parses =>
          rw [scan_unmatched] at failed
          cases failed
          refine .unmatched (getElem?_length_append _ _ _) ?_
          rwa [List.take_left]
        | @inside first path parses bare =>
          rw [scan_close] at failed
          have there : (first ++ '[' :: path ++ ']' :: cs)[first.length]? = some '[' := by
            rw [List.append_assoc]
            exact getElem?_length_append _ _ _
          have taken : (first ++ '[' :: path ++ ']' :: cs).take first.length = first := by
            rw [List.append_assoc, List.take_left]
          have behind : (first ++ '[' :: path ++ ']' :: cs).drop (first.length + 1)
              = path ++ ']' :: cs := by
            rw [List.append_assoc]
            exact List.drop_length_add_append 1
          cases closed : Token.close first.length path with
          | error e =>
            rw [closed] at failed
            obtain rfl : e = f := Except.error.inj failed
            rcases close_eq_error_iff.mp closed with ⟨rfl, rfl⟩ | ⟨something, wrong, rfl⟩
            · exact .empty there (by rwa [taken]) behind
            · rw [isPath_iff_parts] at wrong
              push Not at wrong
              exact .invalidPath there (by rwa [taken]) behind bare something wrong
          | ok t =>
            rw [closed] at failed
            obtain ⟨_, valid, _⟩ := close_eq_ok_iff.mp closed
            have scanned : scan first.length none ('[' :: path ++ ']' :: [])
                = .ok [Token.ofPath (String.ofList path)] := scan_bracketed bare valid _ _
            have parses : Parses (first ++ '[' :: path ++ [']']) := by
              rw [List.append_assoc]
              exact parses.append scanned
            rw [longer]
            refine ih (.outside parses) ?_
            rw [← next]
            cases rest : scan ((first ++ '[' :: path).length + 1) none cs with
            | error e =>
              rw [rest] at failed
              exact failed
            | ok us =>
              rw [rest] at failed
              cases failed
      · rw [scan_other isOpen isClose, next c] at failed
        rw [longer]
        exact ih (h.other isOpen isClose) failed

theorem Blames.lt_length {n : Nat} {cause : Cause} (h : Blames cs n cause) : n < cs.length := by
  cases h with
  | unmatched there _ | nested there _ _ _ | unterminated there _ _ | empty there _ _
  | invalidPath there _ _ _ _ _ => exact (List.getElem?_eq_some_iff.mp there).1

/-- The scan fails at a place that is to blame. -/
theorem scan_of_blames {n : Nat} {cause : Cause} (h : Blames cs n cause) :
    scan 0 none cs = .error ⟨cause, n⟩ := by
  have bound := h.lt_length
  have length : (cs.take n).length = n := List.length_take_of_le (Nat.le_of_lt bound)
  have split {c : Char} (there : cs[n]? = some c) : cs.take n ++ c :: cs.drop (n + 1) = cs := by
    obtain ⟨_, rfl⟩ := List.getElem?_eq_some_iff.mp there
    rw [← List.drop_eq_getElem_cons bound, List.take_append_drop]
  -- A bracket that opens behind a text that scans by itself is scanned from its own place on.
  have opens (there : cs[n]? = some '[') (parses : Parses (cs.take n)) {path rest : List Char}
      (bare : Bare path) (shape : cs.drop (n + 1) = path ++ rest) {f : Flaw}
      (failed : scan (n + 1 + path.length) (some (n, path)) rest = .error f) :
      scan 0 none cs = .error f := by
    rw [← split there]
    apply scan_of_parses parses
    rw [length, scan_open, shape, scan_inside bare, List.nil_append, failed]
  cases h with
  | unmatched there parses =>
    rw [← split there]
    apply scan_of_parses parses
    rw [scan_unmatched, length]
  | @nested before inside there shape parses bare =>
    rw [← split there, shape, List.append_assoc]
    apply scan_of_parses parses
    rw [List.cons_append, scan_open, scan_inside bare, scan_nested]
    congr 2
    rw [← length, shape, List.length_append, List.length_cons]
    omega
  | unterminated there parses bare =>
    exact opens there parses bare (List.append_nil _).symm rfl
  | empty there parses closed =>
    refine opens there parses bare_nil closed ?_
    rw [scan_close, close_eq_error_iff.mpr (.inl ⟨rfl, rfl⟩)]
    rfl
  | @invalidPath path after there parses closed bare something wrong =>
    refine opens there parses bare closed ?_
    have wrong : ¬IsPath path := by
      rw [isPath_iff_parts]
      push Not
      exact wrong
    rw [scan_close, close_eq_error_iff.mpr (.inr ⟨something, wrong, rfl⟩)]
    rfl

theorem scan_eq_error_iff {n : Nat} {cause : Cause} :
    scan 0 none cs = .error ⟨cause, n⟩ ↔ Blames cs n cause := by
  have begun : Reached [] none := .outside (parses_iff.mpr ⟨[], rfl⟩)
  exact ⟨fun failed => begun.blames failed, scan_of_blames⟩

theorem tokens_eq_error_iff {pattern : String} {e : PatternError} :
    tokens pattern = .error e ↔
      ∃ cause n, scan 0 none pattern.toList = .error ⟨cause, n⟩ ∧
        e = .flawed cause (some n) pattern := by
  unfold tokens
  cases scan 0 none pattern.toList with
  | ok ts => simp [Except.mapError]
  | error f =>
    obtain ⟨cause, n⟩ := f
    constructor
    · intro h
      exact ⟨cause, n, rfl, (Except.error.inj h).symm⟩
    · rintro ⟨_, _, same, rfl⟩
      cases same
      rfl

/-! ## Patterns -/

theorem tokens_append {pattern : String} {ts : List Token} (scanned : tokens pattern = .ok ts)
    (more : String) :
    (∀ us, tokens more = .ok us → tokens (pattern ++ more) = .ok (ts ++ us)) ∧
      ∀ cause n, tokens more = .error (.flawed cause (some n) more) →
        tokens (pattern ++ more)
          = .error (.flawed cause (some (pattern.length + n)) (pattern ++ more)) := by
  have before := scan_append_of_ok (scan_of_tokens scanned) more.toList
  have shifted := scan_shift pattern.toList.length 0 none more.toList
  rw [Nat.zero_add] at before
  rw [Option.map_none, Nat.add_zero] at shifted
  rw [shifted, ← String.toList_append] at before
  constructor
  · intro us there
    unfold tokens
    rw [before, scan_of_tokens there]
    rfl
  · intro cause n there
    obtain ⟨cause', n', failed, same⟩ := tokens_eq_error_iff.mp there
    cases same
    refine tokens_eq_error_iff.mpr ⟨cause, pattern.length + n, ?_, rfl⟩
    rw [before, failed]
    show Except.error (Flaw.mk cause (pattern.toList.length + n)) = _
    rw [String.length_toList]

/-- What is known of the errors of a pattern. -/
structure BlamesExactly (pattern : String) : Prop where
  /-- It fails to scan exactly when a place is to blame, which the error names with the reason. -/
  failed : ∀ e, tokens pattern = .error e ↔
    ∃ cause n, e = .flawed cause (some n) pattern ∧ Blames pattern.toList n cause
  /-- No other place is to blame then, nor is this one for another reason. -/
  single : ∀ n cause, Blames pattern.toList n cause → n < pattern.length ∧
    ∀ n' cause', Blames pattern.toList n' cause' → n' = n ∧ cause' = cause
  /-- Whatever follows, the error is the same, unless it is that a bracket is still open. -/
  stays : ∀ cause n, tokens pattern = .error (.flawed cause (some n) pattern) →
    cause ≠ .unterminated → ∀ more,
      tokens (pattern ++ more) = .error (.flawed cause (some n) (pattern ++ more))
  /-- Behind a pattern that scans another one is scanned as by itself, further on. -/
  continues : ∀ ts, tokens pattern = .ok ts → ∀ more,
    (∀ us, tokens more = .ok us → tokens (pattern ++ more) = .ok (ts ++ us)) ∧
      ∀ cause n, tokens more = .error (.flawed cause (some n) more) →
        tokens (pattern ++ more)
          = .error (.flawed cause (some (pattern.length + n)) (pattern ++ more))

/-- The error of a pattern blames the one place that is to blame, for the one reason. -/
theorem blames_exactly (pattern : String) : BlamesExactly pattern where
  failed e := by
    rw [tokens_eq_error_iff]
    constructor
    · rintro ⟨cause, n, failed, rfl⟩
      exact ⟨cause, n, rfl, scan_eq_error_iff.mp failed⟩
    · rintro ⟨cause, n, rfl, blames⟩
      exact ⟨cause, n, scan_eq_error_iff.mpr blames, rfl⟩
  single n cause blames := by
    refine ⟨by rw [← String.length_toList]; exact blames.lt_length, fun n' cause' blames' => ?_⟩
    have same := (scan_of_blames blames').symm.trans (scan_of_blames blames)
    cases same
    exact ⟨rfl, rfl⟩
  stays cause n failed met more := by
    obtain ⟨_, _, failed, same⟩ := tokens_eq_error_iff.mp failed
    cases same
    refine tokens_eq_error_iff.mpr ⟨cause, n, ?_, rfl⟩
    rw [String.toList_append]
    exact scan_append_of_error failed met _
  continues ts scanned more := tokens_append scanned more

/-- A path with two dots side by side is met before the bracket that closes behind it. -/
theorem blames_exactly_two_dots :
    tokens "/[a]/[b..c]x]" = .error (.flawed (.invalidPath "b..c") (some 5) "/[a]/[b..c]x]") ∧
      Blames "/[a]/[b..c]x]".toList 5 (.invalidPath "b..c") ∧
      (∀ more, tokens ("/[a]/[b..c]x]" ++ more)
        = .error (.flawed (.invalidPath "b..c") (some 5) ("/[a]/[b..c]x]" ++ more))) ∧
      ∀ us more, tokens more = .ok us → tokens ("/[a]" ++ more) = .ok (⟨"a", []⟩ :: us) := by
  have failed : tokens "/[a]/[b..c]x]"
      = .error (.flawed (.invalidPath "b..c") (some 5) "/[a]/[b..c]x]") := rfl
  have start : tokens "/[a]" = .ok [⟨"a", []⟩] := rfl
  obtain ⟨cause, n, same, blames⟩ := ((blames_exactly "/[a]/[b..c]x]").failed _).mp failed
  obtain ⟨rfl, place, -⟩ := PatternError.flawed.inj same
  obtain rfl := Option.some.inj place
  exact ⟨failed, blames, (blames_exactly _).stays _ 5 failed (by simp),
    fun us more there => ((blames_exactly "/[a]").continues _ start more).1 us there⟩

end Pattern
end Sitemap
