/-
What can be wrong with an address pattern, and how it is worded.

Scanning finds a `Flaw`: a cause and the position it is blamed on.  `PatternError` adds the pattern
and the two errors that no scan finds: that there is no pattern at all, and that a relation stands
where a field belongs.
-/

namespace Sitemap
namespace Pattern

inductive Cause where
  /-- A bracket opens inside a token. -/
  | nested
  /-- A bracket closes and none is open. -/
  | unmatched
  /-- A token holds nothing. -/
  | empty
  /-- A segment of the path is not one. -/
  | invalidPath (path : String)
  /-- A bracket is never closed. -/
  | unterminated
  /-- A token with one segment names a relation. -/
  | bareRelation (relation : String)
  deriving DecidableEq, Repr

def Cause.text : Cause → String
  | .nested => "Nested '[' in field token"
  | .unmatched => "Unmatched ']'"
  | .empty => "Empty field token"
  | .invalidPath path => s!"Invalid field path '{path}'"
  | .unterminated => "Unterminated field token"
  | .bareRelation relation => s!"Relation '{relation}' is referenced without a sub-field"

/-- A cause and the position it is blamed on. -/
structure Flaw where
  cause : Cause
  position : Nat
  deriving DecidableEq, Repr

/-- A text with the place it speaks of, as far as that is known. -/
def describe (text : String) (pattern position : Option String) : String :=
  match pattern, position with
  | some p, some n => s!"{text} at position {n} in pattern '{p}'"
  | some p, none => s!"{text} in pattern '{p}'"
  | none, _ => text

end Pattern

/-- Why a pattern is refused. -/
inductive PatternError where
  /-- There is no pattern. -/
  | missing
  | flawed (cause : Pattern.Cause) (position : Option Nat) (pattern : String)
  deriving DecidableEq, Repr

namespace PatternError

open Pattern

def position? : PatternError → Option Nat
  | .missing => none
  | .flawed _ position _ => position

def message : PatternError → String
  | .missing => describe "Pattern can not be None" none none
  | .flawed cause position pattern => describe cause.text (some pattern) (position.map toString)

end PatternError

def Pattern.Flaw.inPattern (f : Flaw) (pattern : String) : PatternError :=
  .flawed f.cause (some f.position) pattern

end Sitemap
