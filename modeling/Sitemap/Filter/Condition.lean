/-
Condition trees.

A leaf compares one lookup with a value; a group joins its children by a connector and may be
negated, which any value that counts as true says.  `Group.combine` joins two groups: a group
without children is left out, and a group is merged into the result, child by child, when it has the
connector of the result or a single child.

`Condition.holds` says what a tree means under an assignment of truth values to its leaves; a group
without children asks nothing, and holds even when it is negated.
-/
import Sitemap.Value

namespace Sitemap
namespace Filter

inductive Connector where
  | and
  | or
  /-- An odd number of the children hold. -/
  | xor
  deriving DecidableEq, Repr

def Connector.name : Connector → String
  | .and => "AND"
  | .or => "OR"
  | .xor => "XOR"

inductive Condition where
  | leaf (lookup : String) (value : Value)
  | group (connector : Connector) (negated : Value) (children : List Condition)

/-- A group that stands by itself. -/
structure Group where
  connector : Connector := .and
  negated : Value := .bool false
  children : List Condition := []

namespace Group

def toCondition (g : Group) : Condition := .group g.connector g.negated g.children

def single (lookup : String) (value : Value) : Group := { children := [.leaf lookup value] }

def mergesInto (c : Connector) (g : Group) : Bool :=
  !g.negated.truthy && (g.connector == c || g.children.length == 1)

/-- What a group adds to the children of a group with the connector `c`. -/
def contribution (c : Connector) (g : Group) : List Condition :=
  if g.mergesInto c then g.children else [g.toCondition]

/-- Two groups joined by a connector. -/
def combine (c : Connector) (g h : Group) : Group :=
  if g.children.isEmpty then h
  else if h.children.isEmpty then g
  else { connector := c, children := g.contribution c ++ h.contribution c }

/-- All groups joined by a connector, from the left. -/
def combineAll (c : Connector) (gs : List Group) : Group := gs.foldl (combine c) {}

end Group

mutual

/-- Whether a condition holds when its leaves have these truth values. -/
def Condition.holds (assign : String → Value → Bool) : Condition → Bool
  | .leaf lookup value => assign lookup value
  | .group _ _ [] => true
  | .group .and negated (c :: cs) => xor negated.truthy (allHold assign (c :: cs))
  | .group .or negated (c :: cs) => xor negated.truthy (someHold assign (c :: cs))
  | .group .xor negated (c :: cs) => xor negated.truthy (oddHold assign (c :: cs))

def allHold (assign : String → Value → Bool) : List Condition → Bool
  | [] => true
  | c :: cs => c.holds assign && allHold assign cs

def someHold (assign : String → Value → Bool) : List Condition → Bool
  | [] => false
  | c :: cs => c.holds assign || someHold assign cs

def oddHold (assign : String → Value → Bool) : List Condition → Bool
  | [] => false
  | c :: cs => xor (c.holds assign) (oddHold assign cs)

end

def Group.holds (assign : String → Value → Bool) (g : Group) : Bool := g.toCondition.holds assign

end Filter
end Sitemap
