/-
The fields and relations that an address pattern reads.

`relations` lists the first segments of the tokens with several, `fields` the fields that a
selection asks for: all paths, the fields of the record itself, or the fields of one relation.  Both
keep the order of first occurrence.

A token with one segment that names a relation is refused.  A name counts as a relation when it is
known as one or when the same pattern reads a field of it.
-/
import Sitemap.Distinct
import Sitemap.Pattern.Scan

namespace Sitemap
namespace Text

/-- The position of the first occurrence of `needle`. -/
def findChars? (needle : List Char) : List Char → Option Nat
  | [] => if needle = [] then some 0 else none
  | c :: cs =>
    if needle.isPrefixOf (c :: cs) then some 0 else (findChars? needle cs).map (· + 1)

/-- The position of the first occurrence of `needle` in `s`. -/
def find? (needle s : String) : Option Nat := findChars? needle.toList s.toList

end Text

namespace Pattern

/-- Which of the fields that a pattern reads are asked for: those of one relation, those of the
record itself, or all. -/
structure Selection where
  topLevel : Bool := false
  relation : Option String := none
  deriving DecidableEq, Repr

def Selection.pick (sel : Selection) (t : Token) : Option String :=
  match t.relation?, sel.relation with
  | none, none => some t.field
  | none, some _ => none
  | some r, some asked => if r = asked then some t.field else none
  | some _, none => if sel.topLevel then none else some t.path

def Token.relations (ts : List Token) : List String := distinct (ts.filterMap Token.relation?)

/-- Whether a token with one segment stands where a relation is named. -/
def Token.isBare (known : List String) (t : Token) : Bool :=
  !t.isRelation && known.contains t.field

def relations (pattern : String) : Except PatternError (List String) :=
  (tokens pattern).map Token.relations

/-- The error of a token that names a relation by itself. -/
def bareError (pattern : String) (t : Token) : PatternError :=
  .flawed (.bareRelation t.field) (Text.find? ("[" ++ t.path ++ "]") pattern) pattern

def fieldsOf (sel : Selection) (known : List String) (pattern : String) (ts : List Token) :
    Except PatternError (List String) :=
  match ts.find? (Token.isBare (known ++ Token.relations ts)) with
  | some t => .error (bareError pattern t)
  | none => .ok (distinct (ts.filterMap sel.pick))

/-- The fields of a selection that a pattern reads, where `known` are names of relations. -/
def fields (sel : Selection) (known : List String) (pattern : String) :
    Except PatternError (List String) :=
  tokens pattern >>= fieldsOf sel known pattern

end Pattern
end Sitemap
