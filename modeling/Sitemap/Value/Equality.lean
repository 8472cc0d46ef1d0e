/-
When two values count as the same key.

Numbers are compared by what they are, so that the truth value true, the whole number 1 and the
float 1.0 are one key; moments are compared as points in time, and mappings and objects without
regard to the order of their entries.  `canonical` gives all values of a key one form.  A value that
holds no number, or the rows that a relation hands out, is no key and like nothing: `solitary`.

`alike` is symmetric and transitive, and reflexive on the values that are not solitary.
-/
import Sitemap.Calendar.Reading
import Sitemap.Value.Number

namespace Sitemap
namespace Value

open Calendar

/-- A clock time as a point on the time line, if it has a distance from universal time. -/
def canonicalTime (s : String) : String :=
  match readClock s.toList with
  | some (t, some offset) => "at " ++ toString (t.micros - offset)
  | _ => s

/-- A moment as a point on the time line, if it has a distance from universal time. -/
def canonicalMoment (s : String) : String :=
  match Moment.read? s with
  | some m => if m.offset.isSome then "at " ++ toString m.instant else s
  | none => s

/-- Entries in the order of their keys. -/
def byKey (es : List (String × Value)) : List (String × Value) :=
  es.mergeSort fun a b => !(b.1 < a.1)

mutual

/-- The form that all values of a key have in common. -/
def canonical : Value → Value
  | .bool b => .int b.toNat
  | .literal .float s =>
    match (Ratio.ofSpelling? s).bind Ratio.whole? with
    | some n => .int n
    | none => .literal .float s
  | .literal .dateTime s => .literal .dateTime (canonicalMoment s)
  | .literal .time s => .literal .time (canonicalTime s)
  | .series form items => .series form (canonicalItems items)
  | .mapping es => .mapping (byKey (canonicalEntries es))
  | .object es => .object (byKey (canonicalEntries es))
  | v => v

def canonicalItems : List Value → List Value
  | [] => []
  | v :: vs => canonical v :: canonicalItems vs

def canonicalEntries : List (String × Value) → List (String × Value)
  | [] => []
  | (k, v) :: es => (k, canonical v) :: canonicalEntries es

end

mutual

/-- Whether a value is like no value, not even one that looks the same. -/
def solitary : Value → Bool
  | .literal .float s => s == "nan"
  | .series .related _ => true
  | .series _ items => someSolitary items
  | .mapping es => someEntrySolitary es
  | .object es => someEntrySolitary es
  | _ => false

def someSolitary : List Value → Bool
  | [] => false
  | v :: vs => solitary v || someSolitary vs

def someEntrySolitary : List (String × Value) → Bool
  | [] => false
  | (_, v) :: es => solitary v || someEntrySolitary es

end

/-- Whether two values count as the same key. -/
def alike (a b : Value) : Bool :=
  !a.solitary && !b.solitary && decide (a.canonical = b.canonical)

theorem alike_iff {a b : Value} :
    alike a b = true ↔ a.solitary = false ∧ b.solitary = false ∧ a.canonical = b.canonical := by
  simp [alike, and_assoc]

theorem alike_self {a : Value} (h : a.solitary = false) : alike a a = true := by
  simp [alike_iff, h]

theorem alike_symm {a b : Value} (h : alike a b = true) : alike b a = true := by
  obtain ⟨ha, hb, e⟩ := alike_iff.mp h
  exact alike_iff.mpr ⟨hb, ha, e.symm⟩

theorem alike_trans {a b c : Value} (h : alike a b = true) (h' : alike b c = true) :
    alike a c = true := by
  obtain ⟨ha, _, e⟩ := alike_iff.mp h
  obtain ⟨_, hc, e'⟩ := alike_iff.mp h'
  exact alike_iff.mpr ⟨ha, hc, e.trans e'⟩

end Value
end Sitemap
