/-
What is asked of a value whose shape is not known, and how that can fail.

A mapping may be wanted where another value stands, something may be gone through that holds no
values, and a value may be wanted in a set that cannot stand there.  Each of these is a `ShapeFault`.
-/
import Sitemap.Value
import Sitemap.Entries

namespace Sitemap

/-- The ways in which a value has the wrong shape for what is done with it. -/
inductive ShapeFault where
  /-- It is asked for something that values of its kind do not have. -/
  | missingMember
  /-- It is gone through and holds no values. -/
  | notIterable
  /-- It is to be a member of a set and cannot be compared as one. -/
  | unhashable
  /-- One of its attributes is called and is no function. -/
  | notCallable
  /-- It is given to an operation that takes another kind of value. -/
  | wrongArgument
  /-- It stands where a connector belongs and names none. -/
  | unknownConnector
  /-- Its parts cannot be put into an order. -/
  | unordered
  /-- It stands where the traits of a content type belong. -/
  | traitsExpected (typeName : String)
  deriving DecidableEq, Repr

def ShapeFault.message? : ShapeFault → Option String
  | .traitsExpected typeName => some s!"Expected ContentTypeMeta or mapping, got {typeName}"
  | _ => none

namespace Value

/-- What goes wrong when a member of a value that has none to be called is called: the attributes of
an object are no functions. -/
def calling (member : String) : Value → ShapeFault
  | .object attributes =>
    if (Entries.get? member attributes).isSome then .notCallable else .missingMember
  | _ => .missingMember

/-- The entries of a mapping, which another value is asked for by the name of a member. -/
def entriesBy (member : String) : Value → Except ShapeFault (Entries Value)
  | .mapping es => .ok es
  | v => .error (v.calling member)

def entries (v : Value) : Except ShapeFault (Entries Value) := v.entriesBy "items"

/-- The entries of a mapping in which a key is looked up. -/
def lookedUp (v : Value) : Except ShapeFault (Entries Value) := v.entriesBy "get"

/-- A text, which another value is asked for by the name of a member. -/
def textBy (member : String) : Value → Except ShapeFault String
  | .text s => .ok s
  | v => .error (v.calling member)

/-- The values met when going through a value: the items of a list or a tuple, the characters of a
text, the keys of a mapping. -/
def elements : Value → Except ShapeFault (List Value)
  | .series .list items | .series .tuple items => .ok items
  | .text s => .ok (s.toList.map fun c => .text (String.singleton c))
  | .mapping es => .ok (es.map fun e => .text e.1)
  | _ => .error .notIterable

mutual

/-- Whether a value can be a member of a set. -/
def hashable : Value → Bool
  | .series .list _ | .mapping _ | .object _ => false
  | .series .tuple items => allHashable items
  | _ => true

def allHashable : List Value → Bool
  | [] => true
  | v :: vs => hashable v && allHashable vs

end

def text? : Value → Option String
  | .text s => some s
  | _ => none

end Value
end Sitemap
