/-
The verdict on a pattern says what the scan of it says.

The review first looks whether both brackets occur in a pattern, and does not count tokens.  This
comes to the same: a pattern that scans has a token exactly when both occur (`tokens_ne_nil_iff`), as
it is its layout with the tokens between brackets.

`Merits` says for each verdict which patterns get it, in terms of the scan and the allowed paths.
Every pattern merits one verdict, the one that the review gives (`merits_iff`), and
`decides_exactly` reads from it when a pattern passes and when each of the reproaches is made.
-/
import Sitemap.Pattern.Written
import Sitemap.Proofs.Pattern.Layout

namespace Sitemap
namespace Pattern

variable {P : String} {allowed : List String} {ts : List Token} {v : Verdict}

/-! ## Brackets and tokens -/

theorem Layout.mem_fill_bracketed {L : Layout} (some : L.tokens ≠ []) :
    '[' ∈ L.fill Token.bracketed ∧ ']' ∈ L.fill Token.bracketed := by
  obtain ⟨lead, rest⟩ := L
  cases rest with
  | nil => exact absurd rfl some
  | cons e rest => simp [Layout.fill, Token.bracketed]

theorem Layout.bare_fill_bracketed {L : Layout} (plain : L.Plain) (none : L.tokens = []) :
    Bare (L.fill Token.bracketed) := by
  obtain ⟨lead, rest⟩ := L
  obtain rfl : rest = [] := List.map_eq_nil_iff.mp none
  rw [Layout.fill, List.flatMap_nil, List.append_nil]
  exact plain.1

/-- A pattern that scans has a token when both brackets occur in it, and none when one is lacking. -/
theorem tokens_ne_nil_iff (scanned : tokens P = .ok ts) :
    ts ≠ [] ↔ '[' ∈ P.toList ∧ ']' ∈ P.toList := by
  obtain ⟨L, describes⟩ := exists_describes scanned
  obtain rfl : ts = L.tokens := Except.ok.inj (scanned.symm.trans describes.tokens)
  rw [← describes.chars]
  constructor
  · exact Layout.mem_fill_bracketed
  · intro brackets none
    exact (Layout.bare_fill_bracketed describes.plain none).1 brackets.1

/-! ## What a pattern merits -/

/-- The verdicts and the patterns that merit them. -/
inductive Merits (P : String) (allowed : List String) : Verdict → Prop where
  | empty (nothing : P = "") : Merits P allowed .empty
  | withoutField (something : P ≠ "") (lacks : '[' ∉ P.toList ∨ ']' ∉ P.toList) :
      Merits P allowed .withoutField
  | malformed {e : PatternError} (brackets : '[' ∈ P.toList ∧ ']' ∈ P.toList)
      (failed : tokens P = .error e) : Merits P allowed .malformed
  | forbidden {ts : List Token} {t : Token} (scanned : tokens P = .ok ts) (mem : t ∈ ts)
      (outside : t.path ∉ allowed) : Merits P allowed .forbidden
  | valid {ts : List Token} (scanned : tokens P = .ok ts) (some : ts ≠ [])
      (all : ∀ t ∈ ts, t.path ∈ allowed) : Merits P allowed .valid

theorem merits_review (P : String) (allowed : List String) : Merits P allowed (review P allowed) := by
  unfold review
  split
  · next nothing => exact .empty nothing
  · next something =>
    split
    · next lacks =>
      refine .withoutField something ?_
      simpa [List.contains_iff_mem] using lacks
    · next both =>
      have brackets : '[' ∈ P.toList ∧ ']' ∈ P.toList := by
        simpa [List.contains_iff_mem] using both
      split
      · next failed => exact .malformed brackets failed
      · next ts scanned =>
        split
        · next all =>
          refine .valid scanned ((tokens_ne_nil_iff scanned).mpr brackets) fun t ht => ?_
          exact List.contains_iff_mem.mp (List.all_eq_true.mp all t ht)
        · next some =>
          obtain ⟨t, ht, outside⟩ : ∃ t ∈ ts, t.path ∉ allowed := by simpa using some
          exact .forbidden scanned ht outside

theorem review_of_brackets (brackets : '[' ∈ P.toList ∧ ']' ∈ P.toList) :
    review P allowed = match tokens P with
      | .error _ => .malformed
      | .ok ts => if ts.all fun t => allowed.contains t.path then .valid else .forbidden := by
  have something : P ≠ "" := by
    rintro rfl
    exact absurd brackets.1 (by decide)
  have both : ¬(!P.toList.contains '[' || !P.toList.contains ']') = true := by
    simpa [List.contains_iff_mem] using brackets
  unfold review
  exact (if_neg something).trans (if_neg both)

theorem Merits.eq_review (h : Merits P allowed v) : v = review P allowed := by
  cases h with
  | empty nothing => exact (if_pos nothing).symm
  | withoutField something lacks =>
    have lacking : (!P.toList.contains '[' || !P.toList.contains ']') = true := by
      simpa [List.contains_iff_mem] using lacks
    unfold review
    rw [if_neg something, if_pos lacking]
  | malformed brackets failed => rw [review_of_brackets brackets, failed]
  | @forbidden ts t scanned mem outside =>
    have notAll : ¬(ts.all fun t => allowed.contains t.path) = true := by
      simpa using ⟨t, mem, outside⟩
    rw [review_of_brackets ((tokens_ne_nil_iff scanned).mp (List.ne_nil_of_mem mem)), scanned]
    exact (if_neg notAll).symm
  | @valid ts scanned some all =>
    have every : (ts.all fun t => allowed.contains t.path) = true := by simpa using all
    rw [review_of_brackets ((tokens_ne_nil_iff scanned).mp some), scanned]
    exact (if_pos every).symm

/-- A pattern merits one verdict, the one that the review gives. -/
theorem merits_iff : Merits P allowed v ↔ v = review P allowed := by
  constructor
  · exact Merits.eq_review
  · rintro rfl
    exact merits_review P allowed

/-! ## Paths written as a value -/

theorem Merits.distinct (h : Merits P (distinct allowed) v) : Merits P allowed v := by
  cases h with
  | empty nothing => exact .empty nothing
  | withoutField something lacks => exact .withoutField something lacks
  | malformed brackets failed => exact .malformed brackets failed
  | forbidden scanned mem outside => exact .forbidden scanned mem fun h => outside (mem_distinct.mpr h)
  | valid scanned some all => exact .valid scanned some fun t ht => mem_distinct.mp (all t ht)

/-- A reproach that is not about the paths is made whichever paths are allowed. -/
theorem Merits.of_nil (h : Merits P [] v) (valid : v ≠ .valid) (forbidden : v ≠ .forbidden) :
    Merits P allowed v := by
  cases h with
  | empty nothing => exact .empty nothing
  | withoutField something lacks => exact .withoutField something lacks
  | malformed brackets failed => exact .malformed brackets failed
  | forbidden _ _ _ => exact absurd rfl forbidden
  | valid _ _ _ => exact absurd rfl valid

theorem verdictOn_texts (P : String) (allowed : List String) :
    verdictOn (.text P) (.texts allowed) = .ok (review P allowed) := by
  show reviewAmong P (.texts allowed) = _
  have merited := merits_review P []
  have looked : (Value.texts allowed).nameSet.map (review P) = .ok (review P allowed) := by
    rw [Value.nameSet_texts]
    exact congrArg Except.ok (merits_review P (distinct allowed)).distinct.eq_review
  unfold reviewAmong
  cases verdict : review P [] with
  | valid => exact looked
  | forbidden => exact looked
  | empty | withoutField | malformed =>
    rw [verdict] at merited
    exact congrArg Except.ok (merited.of_nil (by simp) (by simp)).eq_review

/-! ## The contract of the review -/

theorem Verdict.eq_of_message {v w : Verdict} (h : v.message = w.message) : v = w := by
  cases v <;> cases w <;> first | rfl | exact absurd h (by decide)

/-- What is said of a pattern that may read the paths `allowed`. -/
def Says (P : String) (allowed : List String) (text : String) : Prop :=
  ∃ v, verdictOn (.text P) (.texts allowed) = .ok v ∧ v.message = text

theorem says_iff : Says P allowed v.message ↔ Merits P allowed v := by
  unfold Says
  rw [verdictOn_texts, merits_iff]
  constructor
  · rintro ⟨w, given, same⟩
    rw [Except.ok.inj given]
    exact (Verdict.eq_of_message same).symm
  · rintro rfl
    exact ⟨_, rfl, rfl⟩

/-- When a pattern passes, and when it is reproached with its brackets or its fields. -/
structure DecidesExactly (P : String) (allowed : List String) : Prop where
  answers : ∃ v, verdictOn (.text P) (.texts allowed) = .ok v
  passes : verdictOn (.text P) (.texts allowed) = .ok .valid ↔
    ∃ ts, tokens P = .ok ts ∧ ts ≠ [] ∧ ∀ t ∈ ts, t.path ∈ allowed
  escaped : Says P allowed "Fields in the pattern are not escaped correctly" ↔
    '[' ∈ P.toList ∧ ']' ∈ P.toList ∧ ∃ e, tokens P = .error e
  forbidden : Says P allowed "Pattern contains forbidden fields" ↔
    ∃ ts, tokens P = .ok ts ∧ ts ≠ [] ∧ ∃ t ∈ ts, t.path ∉ allowed

/-- The review has a verdict on every pattern, and each is given exactly when the scan bears it out. -/
theorem decides_exactly (P : String) (allowed : List String) : DecidesExactly P allowed where
  answers := ⟨_, verdictOn_texts P allowed⟩
  passes := by
    have passed : verdictOn (.text P) (.texts allowed) = .ok .valid ↔ Merits P allowed .valid := by
      rw [verdictOn_texts, merits_iff, Except.ok.injEq, eq_comm]
    rw [passed]
    constructor
    · intro h
      cases h with
      | valid scanned some all => exact ⟨_, scanned, some, all⟩
    · rintro ⟨ts, scanned, some, all⟩
      exact .valid scanned some all
  escaped := by
    rw [show "Fields in the pattern are not escaped correctly" = Verdict.malformed.message from rfl,
      says_iff]
    constructor
    · intro h
      cases h with
      | malformed brackets failed => exact ⟨brackets.1, brackets.2, _, failed⟩
    · rintro ⟨opens, closes, e, failed⟩
      exact .malformed ⟨opens, closes⟩ failed
  forbidden := by
    rw [show "Pattern contains forbidden fields" = Verdict.forbidden.message from rfl, says_iff]
    constructor
    · intro h
      cases h with
      | forbidden scanned mem outside =>
        exact ⟨_, scanned, List.ne_nil_of_mem mem, _, mem, outside⟩
    · rintro ⟨ts, scanned, -, t, mem, outside⟩
      exact .forbidden scanned mem outside

/-- Brackets in the wrong order are both there and do not scan. -/
example : verdictOn (.text "/]a[") (.texts ["a"]) = .ok .malformed := rfl

end Pattern
end Sitemap
