/-
Field tokens of address patterns.

An address pattern is a text such as `/news/[category.name]/[slug]`.  A token `[path]` names a field
of a content record: with one segment a field of the record itself, with several a field of the
record that the first segment relates to.  A token is held as its first segment and the others, so
that it always has a segment.

A segment is one or more letters, digits, numeric characters, underscores and hyphens, and may end
in one line feed, which is then part of the name.
-/
import Sitemap.Text.Alphanumeric
import Sitemap.Text.Split

namespace Sitemap
namespace Pattern

/-- A field path between brackets, split at its dots. -/
structure Token where
  head : String
  rest : List String
  deriving DecidableEq, Repr

namespace Token

def ofPath (path : String) : Token := ⟨(Text.split '.' path).1, (Text.split '.' path).2⟩

def segments (t : Token) : List String := t.head :: t.rest

/-- The path as it stands between the brackets. -/
def path (t : Token) : String := Text.join "." t.segments

/-- Whether the token names a field of a related record. -/
def isRelation (t : Token) : Bool := !t.rest.isEmpty

/-- The relation of a token with several segments. -/
def relation? (t : Token) : Option String := if t.isRelation then some t.head else none

/-- The field: the only segment, or what follows the relation. -/
def field (t : Token) : String := if t.isRelation then Text.join "." t.rest else t.head

theorem segments_ofPath (path : String) : (ofPath path).segments = Text.parts '.' path := rfl

theorem path_ofPath (s : String) : (ofPath s).path = s := Text.join_parts '.' s

end Token

/-- A character that may stand in a segment. -/
def isSegmentChar (c : Char) : Bool := Text.isAlphanumeric c || c = '_' || c = '-'

/-- Whether `cs` can end a segment: segment characters, with at most one line feed, at the end. -/
def isSegmentEnd : List Char → Bool
  | [] => true
  | ['\n'] => true
  | c :: cs => isSegmentChar c && isSegmentEnd cs

def isSegment : List Char → Bool
  | [] => false
  | c :: cs => isSegmentChar c && isSegmentEnd cs

def Token.valid (t : Token) : Bool := t.segments.all fun s => isSegment s.toList

end Pattern
end Sitemap
