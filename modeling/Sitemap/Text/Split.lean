/-
Splitting a text at a separator character and joining parts with a separator text.

`split sep s` cuts `s` at every occurrence of `sep`.  There is always a first part, so the result is
that part with the list of the others, and `parts` is the two as one list.  `join_parts` says that
joining the parts gives the text back, `parts_join` that parts without the separator are found again,
`parts_append` that splitting a text at one of its separators splits the parts there, and
`sep_not_mem_splitChars` that no part holds the separator.
-/

namespace Sitemap
namespace Text

/-- The parts of `cs` between the occurrences of `sep`: the first and the others. -/
def splitChars (sep : Char) : List Char → List Char × List (List Char)
  | [] => ([], [])
  | c :: cs =>
    if c = sep then ([], (splitChars sep cs).1 :: (splitChars sep cs).2)
    else (c :: (splitChars sep cs).1, (splitChars sep cs).2)

theorem splitChars_sep (sep : Char) (cs : List Char) :
    splitChars sep (sep :: cs) = ([], (splitChars sep cs).1 :: (splitChars sep cs).2) := if_pos rfl

theorem splitChars_other {sep c : Char} (other : c ≠ sep) (cs : List Char) :
    splitChars sep (c :: cs) = (c :: (splitChars sep cs).1, (splitChars sep cs).2) := if_neg other

/-- The parts `first` and `others` with `sep` between them. -/
def joinChars (sep : List Char) (first : List Char) : List (List Char) → List Char
  | [] => first
  | part :: others => first ++ sep ++ joinChars sep part others

theorem joinChars_cons (sep : List Char) (c : Char) (first : List Char)
    (others : List (List Char)) :
    joinChars sep (c :: first) others = c :: joinChars sep first others := by
  cases others <;> simp [joinChars]

theorem joinChars_splitChars (sep : Char) (cs : List Char) :
    joinChars [sep] (splitChars sep cs).1 (splitChars sep cs).2 = cs := by
  induction cs with
  | nil => rfl
  | cons c cs ih =>
    by_cases h : c = sep
    · simp [splitChars, h, joinChars, ih]
    · simp [splitChars, h, joinChars_cons, ih]

theorem sep_not_mem_splitChars (sep : Char) (cs : List Char) :
    sep ∉ (splitChars sep cs).1 ∧ ∀ part ∈ (splitChars sep cs).2, sep ∉ part := by
  induction cs with
  | nil => simp [splitChars]
  | cons c cs ih =>
    by_cases h : c = sep
    · simpa [splitChars, h] using ih
    · simpa [splitChars, h, Ne.symm h] using ih

theorem splitChars_append_fst (sep : Char) (p q : List Char) :
    (splitChars sep (p ++ sep :: q)).1 = (splitChars sep p).1 := by
  induction p with
  | nil => simp [splitChars]
  | cons c p ih => by_cases h : c = sep <;> simp [splitChars, h, ih]

theorem splitChars_append_snd (sep : Char) (p q : List Char) :
    (splitChars sep (p ++ sep :: q)).2
      = (splitChars sep p).2 ++ (splitChars sep q).1 :: (splitChars sep q).2 := by
  induction p with
  | nil => simp [splitChars]
  | cons c p ih =>
    by_cases h : c = sep <;> simp [splitChars, h, ih, splitChars_append_fst]

theorem splitChars_of_not_mem {sep : Char} {cs : List Char} (h : sep ∉ cs) :
    splitChars sep cs = (cs, []) := by
  induction cs with
  | nil => rfl
  | cons c cs ih =>
    have here : c ≠ sep := fun e => h (by simp [e])
    have rest : sep ∉ cs := fun mem => h (List.mem_cons_of_mem _ mem)
    rw [splitChars, if_neg here, ih rest]

/-- Parts that do not hold the separator are found again. -/
theorem splitChars_joinChars {sep : Char} {first : List Char} {others : List (List Char)}
    (here : sep ∉ first) (rest : ∀ part ∈ others, sep ∉ part) :
    splitChars sep (joinChars [sep] first others) = (first, others) := by
  induction others generalizing first with
  | nil => exact splitChars_of_not_mem here
  | cons part others ih =>
    obtain ⟨next, more⟩ := List.forall_mem_cons.mp rest
    have shape : joinChars [sep] first (part :: others)
        = first ++ sep :: joinChars [sep] part others := by
      rw [joinChars, List.append_assoc]
      rfl
    rw [shape]
    apply Prod.ext
    · rw [splitChars_append_fst, splitChars_of_not_mem here]
    · rw [splitChars_append_snd, splitChars_of_not_mem here, ih next more]
      rfl

/-- The part of `s` before the first `sep`, and the parts after it. -/
def split (sep : Char) (s : String) : String × List String :=
  (String.ofList (splitChars sep s.toList).1, (splitChars sep s.toList).2.map String.ofList)

/-- All parts of `s` between the occurrences of `sep`. -/
def parts (sep : Char) (s : String) : List String :=
  (split sep s).1 :: (split sep s).2

def join (sep : String) : List String → String
  | [] => ""
  | [s] => s
  | s :: t :: rest => s ++ sep ++ join sep (t :: rest)

theorem toList_join (sep : String) (first : String) (others : List String) :
    (join sep (first :: others)).toList
      = joinChars sep.toList first.toList (others.map String.toList) := by
  induction others generalizing first with
  | nil => rfl
  | cons s others ih => simp [join, joinChars, ih]

/-- Splitting loses nothing. -/
theorem join_parts (sep : Char) (s : String) : join (String.singleton sep) (parts sep s) = s := by
  apply String.toList_inj.mp
  rw [parts, toList_join]
  simp [split, Function.comp_def, joinChars_splitChars]

/-- Parts that do not hold the separator are found again in what they are joined to. -/
theorem parts_join {sep : Char} {names : List String} (some : names ≠ [])
    (own : ∀ name ∈ names, sep ∉ name.toList) :
    parts sep (join (String.singleton sep) names) = names := by
  obtain ⟨first, others, rfl⟩ := List.exists_cons_of_ne_nil some
  obtain ⟨here, rest⟩ := List.forall_mem_cons.mp own
  have rest : ∀ part ∈ others.map String.toList, sep ∉ part := by
    intro part mem
    obtain ⟨name, hname, rfl⟩ := List.mem_map.mp mem
    exact rest name hname
  have chars : (join (String.singleton sep) (first :: others)).toList
      = joinChars [sep] first.toList (others.map String.toList) := by
    rw [toList_join, String.toList_singleton]
  simp [parts, split, chars, splitChars_joinChars here rest, Function.comp_def]

/-- Splitting goes through a separator. -/
theorem parts_append (sep : Char) (p q : String) :
    parts sep (p ++ String.singleton sep ++ q) = parts sep p ++ parts sep q := by
  have h : (p ++ String.singleton sep ++ q).toList = p.toList ++ sep :: q.toList := by simp
  simp only [parts, split, h, splitChars_append_fst, splitChars_append_snd]
  simp

end Text
end Sitemap
