/-
The address of a page is the one canonical form of the path that its pattern is filled to.

A canonical path starts with a slash and has no two slashes side by side.  It has the steps of the
path that it comes from, which are the parts between slashes that are not empty, and it ends in a slash
where that path does.  There is one such path at most, and `canonical` gives it: `canonicalFor_iff`.

Two slashes side by side are two characters that are not `Apart`.  Collapsing keeps of a list of
characters what `List.destutter` keeps with respect to that, so that the library tells when nothing is
left to collapse.  A list that is apart has the same parts between slashes as steps, but for an empty
one at the end (`splitChars_of_isChain`), from which follows that the steps and the end determine it.
-/
import Mathlib
import Sitemap.Pattern.Written
import Sitemap.Proofs.Outcome
import Sitemap.Proofs.Pattern.Layout

namespace Sitemap
namespace Pattern

variable {cs : List Char} {path url : String}

/-! ## Slashes side by side -/

/-- Two characters that are not both slashes. -/
def Apart (c d : Char) : Prop := ¬(c = '/' ∧ d = '/')

instance : DecidableRel Apart := fun _ _ => inferInstanceAs (Decidable (¬_))

theorem isChain_apart_iff : cs.IsChain Apart ↔ ¬['/', '/'] <:+: cs := by
  rw [List.isChain_iff_forall_rel_of_append_cons_cons]
  constructor
  · rintro apart ⟨front, behind, rfl⟩
    have shape : front ++ ['/', '/'] ++ behind = front ++ '/' :: '/' :: behind := by simp
    exact apart shape ⟨rfl, rfl⟩
  · rintro no c d front behind rfl ⟨rfl, rfl⟩
    exact no ⟨front, behind, by simp⟩

theorem collapse_eq_destutter (cs : List Char) : collapse cs = cs.destutter Apart := by
  cases cs with
  | nil => rfl
  | cons c cs =>
    induction cs generalizing c with
    | nil => rfl
    | cons d cs ih =>
      rw [collapse, ih]
      by_cases slashes : c = '/' ∧ d = '/'
      · have stutters : ¬Apart c d := fun apart => apart slashes
        obtain ⟨rfl, rfl⟩ := slashes
        rw [List.destutter_cons_cons, if_pos ⟨rfl, rfl⟩, if_neg stutters]
        rfl
      · have apart : Apart c d := slashes
        rw [List.destutter_cons_cons, if_neg slashes, if_pos apart]
        rfl

theorem isChain_collapse (cs : List Char) : (collapse cs).IsChain Apart := by
  rw [collapse_eq_destutter]
  exact List.isChain_destutter Apart cs

theorem collapse_of_isChain (apart : cs.IsChain Apart) : collapse cs = cs := by
  rw [collapse_eq_destutter]
  exact List.destutter_of_isChain Apart cs apart

/-! ## Both ends -/

theorem getLast?_collapse (cs : List Char) : (collapse cs).getLast? = cs.getLast? := by
  fun_induction collapse cs with
  | case1 => rfl
  | case2 => rfl
  | case3 c d cs _ ih => rw [ih, List.getLast?_cons_cons]
  | case4 c d cs _ ih => rw [List.getLast?_cons, ih, ← List.getLast?_cons]

theorem collapse_eq_nil_iff : collapse cs = [] ↔ cs = [] := by
  rw [← List.getLast?_eq_none_iff, getLast?_collapse, List.getLast?_eq_none_iff]

/-- Either there is a slash in front, or one is put there. -/
theorem rooted_cases (cs : List Char) :
    (cs.head? = some '/' ∧ rooted cs = cs) ∨ (cs.head? ≠ some '/' ∧ rooted cs = '/' :: cs) := by
  cases cs with
  | nil => exact .inr ⟨by simp, rfl⟩
  | cons c cs =>
    by_cases slash : c = '/'
    · exact .inl ⟨congrArg some slash, if_pos slash⟩
    · exact .inr ⟨fun same => slash (Option.some.inj same), if_neg slash⟩

theorem head?_rooted (cs : List Char) : (rooted cs).head? = some '/' := by
  rcases rooted_cases cs with ⟨slash, same⟩ | ⟨_, put⟩
  · rw [same, slash]
  · rw [put]
    rfl

theorem rooted_of_head? (slash : cs.head? = some '/') : rooted cs = cs := by
  rcases rooted_cases cs with ⟨_, same⟩ | ⟨other, _⟩
  · exact same
  · exact absurd slash other

theorem isChain_rooted (apart : cs.IsChain Apart) : (rooted cs).IsChain Apart := by
  rcases rooted_cases cs with ⟨_, same⟩ | ⟨other, put⟩
  · rw [same]
    exact apart
  · rw [put, List.isChain_cons]
    refine ⟨fun d first slashes => ?_, apart⟩
    exact other (by rw [Option.mem_def.mp first, slashes.2])

theorem getLast?_rooted_iff :
    (rooted cs).getLast? = some '/' ↔ cs.getLast? = some '/' ∨ cs = [] := by
  rcases rooted_cases cs with ⟨slash, same⟩ | ⟨_, put⟩
  · rw [same]
    have something : cs ≠ [] := by
      rintro rfl
      cases slash
    exact (or_iff_left something).symm
  · rw [put, List.getLast?_cons]
    cases h : cs.getLast? with
    | none => simp [List.getLast?_eq_none_iff.mp h]
    | some c =>
      have something : cs ≠ [] := by
        rintro rfl
        cases h
      simp [something]

/-! ## Steps -/

/-- The parts between slashes that are not empty. -/
def stepsOf (cs : List Char) : List (List Char) :=
  ((Text.splitChars '/' cs).1 :: (Text.splitChars '/' cs).2).filter (· ≠ [])

/-- The steps of a path. -/
def steps (path : String) : List String := (Text.parts '/' path).filter (· ≠ "")

theorem steps_eq (path : String) : steps path = (stepsOf path.toList).map String.ofList := by
  unfold steps stepsOf
  show ((_ :: _).map String.ofList).filter (· ≠ "") = _
  rw [List.filter_map]
  congr 1
  exact List.filter_congr fun part _ => by simp

/-- Among the parts of what is left, only empty ones are missing. -/
theorem splitChars_collapse (cs : List Char) :
    (Text.splitChars '/' (collapse cs)).1 = (Text.splitChars '/' cs).1 ∧
      (Text.splitChars '/' (collapse cs)).2.filter (· ≠ [])
        = (Text.splitChars '/' cs).2.filter (· ≠ []) := by
  fun_induction collapse cs with
  | case1 => exact ⟨rfl, rfl⟩
  | case2 => exact ⟨rfl, rfl⟩
  | case3 c d cs slashes ih =>
    obtain ⟨rfl, rfl⟩ := slashes
    -- The part between the two slashes is empty.
    rw [Text.splitChars_sep, Text.splitChars_sep] at *
    exact ih
  | case4 c d cs _ ih =>
    obtain ⟨first, others⟩ := ih
    by_cases slash : c = '/'
    · subst slash
      rw [Text.splitChars_sep, Text.splitChars_sep, first]
      exact ⟨rfl, by rw [List.filter_cons, List.filter_cons, others]⟩
    · rw [Text.splitChars_other slash, Text.splitChars_other slash, first]
      exact ⟨rfl, others⟩

theorem stepsOf_collapse (cs : List Char) : stepsOf (collapse cs) = stepsOf cs := by
  obtain ⟨first, others⟩ := splitChars_collapse cs
  unfold stepsOf
  rw [List.filter_cons, List.filter_cons, first, others]

theorem stepsOf_rooted (cs : List Char) : stepsOf (rooted cs) = stepsOf cs := by
  rcases rooted_cases cs with ⟨_, same⟩ | ⟨_, put⟩
  · rw [same]
  · rw [put]
    unfold stepsOf
    rw [Text.splitChars_sep]
    rfl

/-- When no slashes are side by side, a part behind the first slash is empty only at the end. -/
theorem splitChars_of_isChain (apart : cs.IsChain Apart) :
    (Text.splitChars '/' cs).2 = (Text.splitChars '/' cs).2.filter (· ≠ [])
      ++ if cs.getLast? = some '/' then [[]] else [] := by
  induction cs with
  | nil => rfl
  | cons c cs ih =>
    cases cs with
    | nil =>
      by_cases slash : c = '/'
      · subst slash
        rfl
      · have other : ¬some c = some '/' := fun e => slash (Option.some.inj e)
        rw [Text.splitChars_other slash, List.getLast?_singleton, if_neg other]
        rfl
    | cons d cs =>
      obtain ⟨here, rest⟩ := List.isChain_cons_cons.mp apart
      rw [List.getLast?_cons_cons]
      by_cases slash : c = '/'
      · have other : d ≠ '/' := fun e => here ⟨slash, e⟩
        have something : decide ((Text.splitChars '/' (d :: cs)).1 ≠ []) = true := by
          rw [Text.splitChars_other other]
          rfl
        rw [slash, Text.splitChars_sep, List.filter_cons, if_pos something, List.cons_append,
          ← ih rest]
      · rw [Text.splitChars_other slash]
        exact ih rest

/-- The steps and the end determine a list that starts with a slash and is apart. -/
theorem eq_of_stepsOf {ds : List Char} (apart : cs.IsChain Apart) (apart' : ds.IsChain Apart)
    (slash : cs.head? = some '/') (slash' : ds.head? = some '/') (same : stepsOf cs = stepsOf ds)
    (ending : cs.getLast? = some '/' ↔ ds.getLast? = some '/') : cs = ds := by
  have first {es : List Char} (slash : es.head? = some '/') : (Text.splitChars '/' es).1 = [] := by
    obtain ⟨rest, rfl⟩ := List.head?_eq_some_iff.mp slash
    rw [Text.splitChars_sep]
  have others : (Text.splitChars '/' cs).2 = (Text.splitChars '/' ds).2 := by
    unfold stepsOf at same
    rw [first slash, first slash'] at same
    rw [splitChars_of_isChain apart, splitChars_of_isChain apart']
    exact congr (congrArg _ same) (if_congr ending rfl rfl)
  rw [← Text.joinChars_splitChars '/' cs, ← Text.joinChars_splitChars '/' ds, first slash,
    first slash', others]

/-! ## Canonical paths -/

/-- A canonical path for a path that may not be one. -/
structure CanonicalFor (path url : String) : Prop where
  slash : url.toList.head? = some '/'
  single : ¬['/', '/'] <:+: url.toList
  steps : steps url = steps path
  ending : url.toList.getLast? = some '/' ↔ path.toList.getLast? = some '/' ∨ path = ""
  fixed : canonical url = url

theorem canonicalFor_canonical (path : String) : CanonicalFor path (canonical path) := by
  have apart : (rooted (collapse path.toList)).IsChain Apart :=
    isChain_rooted (isChain_collapse path.toList)
  have chars : (canonical path).toList = rooted (collapse path.toList) := String.toList_ofList
  refine ⟨?_, ?_, ?_, ?_, ?_⟩
  · rw [chars, head?_rooted]
  · rw [chars, ← isChain_apart_iff]
    exact apart
  · rw [steps_eq, steps_eq, chars, stepsOf_rooted, stepsOf_collapse]
  · rw [chars, getLast?_rooted_iff, getLast?_collapse, collapse_eq_nil_iff, String.toList_eq_nil_iff]
  · rw [canonical, chars, collapse_of_isChain apart, rooted_of_head? (head?_rooted _), canonical]

/-- A path has one canonical path. -/
theorem canonicalFor_iff : CanonicalFor path url ↔ url = canonical path := by
  constructor
  · intro h
    have given := canonicalFor_canonical path
    have steps : stepsOf url.toList = stepsOf (canonical path).toList := by
      have same := h.steps.trans given.steps.symm
      rw [steps_eq, steps_eq] at same
      exact List.map_injective_iff.mpr (fun _ _ => String.ofList_injective) same
    exact String.toList_inj.mp (eq_of_stepsOf (isChain_apart_iff.mpr h.single)
      (isChain_apart_iff.mpr given.single) h.slash given.slash steps
      (h.ending.trans given.ending.symm))
  · rintro rfl
    exact canonicalFor_canonical path

/-! ## Addresses -/

/-- What a pattern is filled to before the path is made canonical.  A record that is no mapping fills
only a pattern that looks nothing up, which then stays as it is. -/
inductive FilledTo (pattern : String) : Value → String → Prop where
  | record (es : Entries Value) : FilledTo pattern (.mapping es) (substituted pattern es)
  | plain {record : Value} (nothing : hasGroup pattern = false) : FilledTo pattern record pattern

theorem substituted_of_not_hasGroup {pattern : String} {ts : List Token}
    (scanned : tokens pattern = .ok ts) (nothing : hasGroup pattern = false)
    (record : Entries Value) : substituted pattern record = pattern := by
  obtain ⟨L, describes⟩ := exists_describes scanned
  have bare : L.rest = [] := by
    rw [hasGroup, pieces_of_describes describes] at nothing
    cases rest : L.rest with
    | nil => rfl
    | cons e others => simp [rest] at nothing
  have chars := describes.chars
  rw [Layout.fill, bare] at chars
  rw [(fill_of_describes describes record).1, Layout.fill, bare]
  exact String.toList_inj.mp (String.toList_ofList.trans chars)

theorem filled_of_addressOf {pattern : String} {record : Value} {A : Address}
    (h : addressOf pattern record = .ok A) :
    ∃ path, FilledTo pattern record path ∧ A.url = canonical path := by
  obtain ⟨ts, scanned, h⟩ := exists_of_bind h
  cases record with
  | mapping es =>
    have h : Except.ok (fill pattern es) = .ok A := h
    rw [← Except.ok.inj h]
    exact ⟨_, .record es, rfl⟩
  | null | bool | int | text | literal | series | object =>
    have h : (if hasGroup pattern then _ else Except.ok (fill pattern [])) = .ok A := h
    cases nothing : hasGroup pattern with
    | true =>
      rw [if_pos nothing] at h
      cases h
    | false =>
      rw [if_neg (by simp [nothing])] at h
      refine ⟨pattern, .plain nothing, ?_⟩
      rw [← Except.ok.inj h, fill, substituted_of_not_hasGroup (ok_of_mapError scanned) nothing]

/-- The address of a page is the canonical path for the one that its pattern is filled to. -/
theorem canonicalFor_of_address {pattern record : Value} {A : Address}
    (h : addressBy pattern record = .ok A) :
    ∃ text path, pattern = .text text ∧ FilledTo text record path ∧ CanonicalFor path A.url := by
  cases pattern with
  | text text =>
    obtain ⟨path, filled, url⟩ := filled_of_addressOf h
    exact ⟨text, path, rfl, filled, canonicalFor_iff.mpr url⟩
  | null | bool | int | literal | series | mapping | object =>
    -- Other values make no address, also when they have a scan.
    obtain ⟨_, _, failed⟩ := exists_of_bind h
    cases failed

/-- Slashes that come together since there is nothing between them, and others within a value. -/
theorem canonicalFor_of_slashes :
    addressBy (.text "x[a]//[a]/[b.c]/[a]") (.mapping [("b", .mapping [("c", .text "x//y/")])])
        = .ok ⟨"/x/x/y/", []⟩ ∧ CanonicalFor "x///x//y//" "/x/x/y/" := by
  have address : addressBy (.text "x[a]//[a]/[b.c]/[a]")
      (.mapping [("b", .mapping [("c", .text "x//y/")])]) = .ok ⟨"/x/x/y/", []⟩ := by cbv
  obtain ⟨text, path, same, filled, canonical⟩ := canonicalFor_of_address address
  obtain rfl := Value.text.inj same
  cases filled with
  | record es => exact ⟨address, canonical⟩
  | plain nothing => exact absurd nothing (by decide)

end Pattern
end Sitemap
