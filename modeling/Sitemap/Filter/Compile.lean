/-
Filter specifications and the conditions they stand for.

A specification is a mapping, all of whose keys have to hold.  The key `or` holds alternatives: a
list of specifications, or a mapping whose entries are one alternative each.  A value that counts as
not given asks for nothing.

Three lookups are no fields: `_negated` and `_connector` set those of a group without children, and
`self` is refused.
-/
import Sitemap.Filter.Condition
import Sitemap.Filter.Key
import Sitemap.Value.Shape

namespace Sitemap
namespace Filter

def orKey : String := "or"

def negatedLookup : String := "_negated"
def connectorLookup : String := "_connector"
def selfLookup : String := "self"

/-- The connector that a value names; null names the usual one. -/
def connectorOf : Value → Except ShapeFault Connector
  | .null => .ok .and
  | .text s =>
    match [Connector.and, .or, .xor].find? fun c => c.name == s with
    | some c => .ok c
    | none => .error .unknownConnector
  | _ => .error .unknownConnector

def groupOf (lookup : String) (v : Value) : Except ShapeFault Group :=
  if lookup = selfLookup then .error .wrongArgument
  else if lookup = negatedLookup then .ok { negated := v }
  else if lookup = connectorLookup then (connectorOf v).map fun c => { connector := c }
  else .ok (Group.single lookup v)

/-- A lookup of a field is a leaf by itself. -/
theorem groupOf_field {lookup : String} (hs : lookup ≠ selfLookup) (hn : lookup ≠ negatedLookup)
    (hc : lookup ≠ connectorLookup) (v : Value) : groupOf lookup v = .ok (Group.single lookup v) := by
  simp [groupOf, hs, hn, hc]

mutual

/-- The condition of a specification. -/
def compile : Value → Except ShapeFault Group
  | .mapping es => (compileEntries es).map (Group.combineAll .and)
  | v => if v.truthy then .error (v.calling "items") else .ok {}

/-- The conditions of the entries of a specification, in order. -/
def compileEntries : List (String × Value) → Except ShapeFault (List Group)
  | [] => .ok []
  | (key, v) :: es => do
    let g ← if key = orKey then compileAlternatives v else groupOf (Key.ofText key).lookup v
    let gs ← compileEntries es
    return g :: gs

/-- The condition that one of several alternatives holds. -/
def compileAlternatives : Value → Except ShapeFault Group
  | .series .list specs => (compileSpecs specs).map (Group.combineAll .or)
  | .mapping es => (compileEntries es).map (Group.combineAll .or)
  | v => .error (v.calling "items")

/-- The conditions of several specifications, in order. -/
def compileSpecs : List Value → Except ShapeFault (List Group)
  | [] => .ok []
  | spec :: specs => do
    let g ← compile spec
    let gs ← compileSpecs specs
    return g :: gs

end

end Filter
end Sitemap
