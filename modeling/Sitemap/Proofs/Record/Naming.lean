/-
Attribute names tell fields apart.

The attribute name of a field can be read back: `fieldNameOf` drops the underscores and makes the
character behind each of them a capital.  On names of ASCII letters and digits that begin with a small
letter this undoes `attributeName`, so two such fields never share an attribute: `attributeName_apart`.

On ASCII the whole mapping is `spreadInner` and then `Char.toLower`, character by character
(`toList_attributeName`).  What it leaves is ASCII without capitals, and on such a text it does
nothing.
-/
import Mathlib
import Sitemap.Record.AttributeName

namespace Sitemap
namespace Record

/-- Drop the underscores, and make the character behind each of them a capital.  The flag says that an
underscore stands directly before. -/
def unspread (behind : Bool) : List Char → List Char
  | [] => []
  | c :: cs =>
    if c = '_' then unspread true cs
    else (if behind then c.toUpper else c) :: unspread false cs

/-- The field that an attribute name is made of. -/
def fieldNameOf (name : String) : String := String.ofList (unspread false name.toList)

def IsAscii (s : String) : Prop := ∀ c ∈ s.toList, c.toNat < 128

def WithoutCapitals (s : String) : Prop := ∀ c ∈ s.toList, c.isUpper = false

/-- A name of ASCII letters and digits that begins with a small letter. -/
structure IsFieldName (name : String) : Prop where
  begins : ∃ c cs, name.toList = c :: cs ∧ c.isLower = true
  alphanumeric : ∀ c ∈ name.toList, c.isAlphanum = true

variable {s : String} {c : Char} {cs : List Char}

/-! ## Characters -/

theorem toNat_of_isAlphanum (h : c.isAlphanum = true) : c.toNat < 128 ∧ c ≠ '_' := by
  have underscore : ('_').isAlphanum = false := by decide
  refine ⟨?_, fun e => by rw [e, underscore] at h; cases h⟩
  simp only [Char.isAlphanum, Char.isAlpha, Char.isUpper, Char.isLower, Char.isDigit,
    Bool.or_eq_true, Bool.and_eq_true, decide_eq_true_eq, UInt32.le_iff_toNat_le, ge_iff_le] at h
  change ((65 ≤ c.toNat ∧ c.toNat ≤ 90) ∨ (97 ≤ c.toNat ∧ c.toNat ≤ 122)) ∨
    (48 ≤ c.toNat ∧ c.toNat ≤ 57) at h
  omega

theorem isAlpha_toLower (h : c.isUpper = true) : c.toLower.isAlpha = true := by
  rw [Char.isAlpha_toLower_eq_isAlpha, Char.isAlpha, h, Bool.true_or]

theorem toNat_toLower (h : c.toNat < 128) : c.toLower.toNat < 128 := by
  by_cases upper : c.isUpper = true
  · have letter : c.toLower.isAlphanum = true := by
      rw [Char.isAlphanum, isAlpha_toLower upper, Bool.true_or]
    exact (toNat_of_isAlphanum letter).1
  · rwa [Char.toLower_eq_of_not_isUpper upper]

theorem toLower_ne_underscore (h : c.isUpper = true) : c.toLower ≠ '_' := by
  intro e
  have letter := isAlpha_toLower h
  rw [e] at letter
  exact absurd letter (by decide)

theorem toUpper_toLower (h : c.isUpper = true) : c.toLower.toUpper = c := by
  rw [Char.toUpper_toLower_eq_toUpper]
  exact Char.toUpper_eq_of_not_isLower (Char.not_isLower_of_isUpper h)

/-! ## Underscores before capitals -/

theorem mem_spread (h : c ∈ spread cs) : c = '_' ∨ c ∈ cs := by
  induction cs with
  | nil => cases h
  | cons d cs ih =>
    rw [spread] at h
    split at h <;> grind

theorem spread_of_plain (h : ∀ c ∈ cs, c.isUpper = false) : spread cs = cs := by
  induction cs with
  | nil => rfl
  | cons c cs ih =>
    obtain ⟨here, rest⟩ := List.forall_mem_cons.mp h
    rw [spread, here, ih rest]
    rfl

theorem length_spread (cs : List Char) : (spread cs).length = cs.length + cs.countP Char.isUpper := by
  induction cs with
  | nil => rfl
  | cons c cs ih =>
    cases upper : c.isUpper with
    | true =>
      simp only [spread, upper, if_true, List.length_cons, List.countP_cons, ih]
      omega
    | false =>
      simp only [spread, upper, Bool.false_eq_true, if_false, List.length_cons, List.countP_cons, ih]
      omega

theorem unspread_spread (h : ∀ c ∈ cs, c ≠ '_') :
    unspread false ((spread cs).map Char.toLower) = cs := by
  induction cs with
  | nil => rfl
  | cons c cs ih =>
    obtain ⟨other, rest⟩ := List.forall_mem_cons.mp h
    cases upper : c.isUpper with
    | true =>
      have inside : c.toLower ≠ '_' := toLower_ne_underscore upper
      have underscore : ('_').toLower = '_' := by decide
      simp only [spread, upper, if_true, List.map_cons, underscore, unspread, if_neg inside,
        toUpper_toLower upper, ih rest]
    | false =>
      have same : c.toLower = c := Char.toLower_eq_of_not_isUpper (by simp [upper])
      simp only [spread, upper, Bool.false_eq_true, if_false, List.map_cons, same, unspread,
        if_neg other, ih rest]

/-! ## Attribute names -/

theorem toNat_of_mem_spreadInner (h : ∀ c ∈ cs, c.toNat < 128) :
    ∀ c ∈ spreadInner cs, c.toNat < 128 := by
  cases cs with
  | nil => exact h
  | cons d cs =>
    obtain ⟨here, rest⟩ := List.forall_mem_cons.mp h
    refine List.forall_mem_cons.mpr ⟨here, fun c hc => ?_⟩
    rcases mem_spread hc with rfl | mem
    · decide
    · exact rest c mem

theorem spreadInner_of_plain (h : ∀ c ∈ cs, c.isUpper = false) : spreadInner cs = cs := by
  cases cs with
  | nil => rfl
  | cons c cs => rw [spreadInner, spread_of_plain fun d hd => h d (List.mem_cons_of_mem _ hd)]

theorem length_spreadInner (cs : List Char) :
    (spreadInner cs).length = cs.length + cs.tail.countP Char.isUpper := by
  cases cs with
  | nil => rfl
  | cons c cs =>
    simp only [spreadInner, List.length_cons, length_spread, List.tail_cons]
    omega

theorem toList_attributeName (ascii : IsAscii s) :
    (attributeName s).toList = (spreadInner s.toList).map Char.toLower := by
  rw [attributeName, Text.lower, String.toList_ofList, String.toList_ofList]
  exact Text.lowerChars_of_ascii (toNat_of_mem_spreadInner ascii) []

theorem IsAscii.attributeName (ascii : IsAscii s) : IsAscii (attributeName s) := by
  intro c hc
  rw [toList_attributeName ascii] at hc
  obtain ⟨d, hd, rfl⟩ := List.mem_map.mp hc
  exact toNat_toLower (toNat_of_mem_spreadInner ascii d hd)

theorem withoutCapitals_attributeName (ascii : IsAscii s) : WithoutCapitals (attributeName s) := by
  intro c hc
  rw [toList_attributeName ascii] at hc
  obtain ⟨d, -, rfl⟩ := List.mem_map.mp hc
  exact Char.isUpper_toLower_eq_false d

theorem attributeName_of_plain (ascii : IsAscii s) (plain : WithoutCapitals s) :
    attributeName s = s := by
  apply String.toList_inj.mp
  rw [toList_attributeName ascii, spreadInner_of_plain plain]
  have small : ∀ c ∈ s.toList, c.toLower = id c := fun c hc =>
    Char.toLower_eq_of_not_isUpper (by simp [plain c hc])
  rw [List.map_congr_left small, List.map_id]

theorem length_attributeName (ascii : IsAscii s) :
    (attributeName s).length = s.length + s.toList.tail.countP Char.isUpper := by
  rw [← String.length_toList, toList_attributeName ascii, List.length_map, length_spreadInner,
    String.length_toList]

theorem IsFieldName.isAscii (h : IsFieldName s) : IsAscii s :=
  fun c hc => (toNat_of_isAlphanum (h.alphanumeric c hc)).1

theorem fieldNameOf_attributeName (h : IsFieldName s) : fieldNameOf (attributeName s) = s := by
  obtain ⟨c, cs, begins, small⟩ := h.begins
  have alphanumeric := h.alphanumeric
  rw [begins] at alphanumeric
  obtain ⟨here, rest⟩ := List.forall_mem_cons.mp alphanumeric
  have same : c.toLower = c := Char.toLower_eq_of_not_isUpper (Char.not_isUpper_of_isLower small)
  have others : ∀ d ∈ cs, d ≠ '_' := fun d hd => (toNat_of_isAlphanum (rest d hd)).2
  apply String.toList_inj.mp
  rw [fieldNameOf, String.toList_ofList, toList_attributeName h.isAscii, begins, spreadInner,
    List.map_cons, same, unspread, if_neg (toNat_of_isAlphanum here).2, unspread_spread others]
  rfl

/-- What the attribute name of an ASCII name is like. -/
structure Settled (s : String) : Prop where
  idempotent : attributeName (attributeName s) = attributeName s
  kept : WithoutCapitals s → attributeName s = s
  plain : WithoutCapitals (attributeName s)
  longer : (attributeName s).length = s.length + s.toList.tail.countP Char.isUpper

/-- The field can be read back from its attribute name, so that no two fields share one. -/
theorem attributeName_apart :
    Set.LeftInvOn fieldNameOf attributeName {name | IsFieldName name} ∧
      Set.InjOn attributeName {name | IsFieldName name} ∧
      ∀ s, IsAscii s → Settled s := by
  have back : Set.LeftInvOn fieldNameOf attributeName {name | IsFieldName name} :=
    fun _ named => fieldNameOf_attributeName named
  refine ⟨back, back.injOn, fun s ascii => ?_⟩
  have plain := withoutCapitals_attributeName ascii
  exact ⟨attributeName_of_plain ascii.attributeName plain, attributeName_of_plain ascii, plain,
    length_attributeName ascii⟩

/-- Names that begin with a capital are not told apart. -/
example : attributeName "SlugURL" = attributeName "slugURL" := by decide

end Record
end Sitemap
