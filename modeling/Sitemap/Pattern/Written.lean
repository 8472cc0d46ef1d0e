/-
Patterns written as any value.

A text is scanned as it is.  A list, a tuple or a mapping is gone through item by item, as a text is
character by character: an item that is a bracket counts as one, and no other item can belong to a
path.  So such a value has no tokens at best, and it never makes an address.  Nothing can be gone
through in a value of another kind.
-/
import Sitemap.Failure
import Sitemap.Pattern.Address
import Sitemap.Pattern.Reads
import Sitemap.Pattern.Review
import Sitemap.Value.Members

namespace Sitemap
namespace Pattern

/-- The brackets among the items of a value, with a blank for every other item. -/
def outline (items : List Value) : String :=
  String.ofList <| items.map fun v =>
    if v = .text "[" then '[' else if v = .text "]" then ']' else ' '

/-- What goes wrong when the items between two brackets are taken as a path: those of a list are no
text, and those of a mapping cannot be taken out at all. -/
def pathFault : Value → ShapeFault
  | .mapping _ => .wrongArgument
  | _ => .missingMember

/-- The failure of a value whose outline has a flaw. -/
def outlineFailure (v : Value) (cause : Cause) (position : Option Nat) : Failure :=
  match cause, v with
  | .invalidPath _, v => .shape (pathFault v)
  | .empty, .mapping es => .shape (pathFault (.mapping es))
  | cause, v => .pattern (.flawed cause position v.display)

def tokensOf : Value → Except Failure (List Token)
  | .null => .error (.pattern .missing)
  | .text s => (tokens s).mapError .pattern
  | v => do
    let items ← v.elements.mapError .shape
    match tokens (outline items) with
    | .ok ts => .ok ts
    | .error .missing => .error (.pattern .missing)
    | .error (.flawed cause position _) => .error (outlineFailure v cause position)

/-- The relations that a pattern reads fields of. -/
def relationsOf (pattern : Value) : Except Failure (List String) :=
  (tokensOf pattern).map Token.relations

/-- The fields of a selection that a pattern reads, where `known` are names of relations, looked at
when the pattern has been scanned. -/
def fieldsAmong (sel : Selection) (known pattern : Value) : Except Failure (List String) := do
  let ts ← tokensOf pattern
  let names ← known.knownNames.mapError .shape
  (fieldsOf sel names pattern.display ts).mapError .pattern

def addressBy (pattern record : Value) : Except Failure Address :=
  match pattern with
  | .text s => addressOf s record
  | v => do
    let _ ← tokensOf v
    .error (.shape .wrongArgument)

/-- The verdict on a pattern, where `allowed` are the paths that it may read. -/
def verdictOn (pattern allowed : Value) : Except ShapeFault Verdict :=
  match pattern with
  | .text s => reviewAmong s allowed
  | v =>
    if !v.truthy then .ok .empty
    else do
      let items ← v.elements
      if !items.contains (.text "[") || !items.contains (.text "]") then return .withoutField
      match tokensOf v with
      | .ok _ => allowed.nameSet.map fun _ => .valid
      | .error (.shape fault) => .error fault
      | .error _ => return .malformed

/-- The selection of the fields of a relation, or of no relation in particular.  A value that is no
text is the name of none. -/
def Selection.asking (topLevel : Bool) : Value → Selection
  | .null => { topLevel := topLevel }
  | .text relation => { topLevel := topLevel, relation := some relation }
  | _ => { topLevel := topLevel, relation := some "" }

end Pattern
end Sitemap
