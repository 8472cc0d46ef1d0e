/-
Which pages of a content type are visible.

A page is kept when the field that marks it as left out is unset or false, if there is such a field;
when it is the page asked for, if one is; and when it is published, if drafts are left out and the
content type has drafts.

The keys of such a specification come from the settings and need not be texts.  Only a value that
can be a key is taken for one, and only a text can be looked up.
-/
import Sitemap.ContentType.Traits
import Sitemap.Filter.Compile
import Sitemap.Settings
import Sitemap.Value.Display

namespace Sitemap
namespace Filter

/-- A key of a filter specification with what is asked of it. -/
abbrev Clause := Value × Value

/-- A clause, or alternatives of one clause each. -/
inductive Ask where
  | one (key v : Value)
  | oneOf (key : Value) (alternatives : List Clause)

/-- The key that an entry of a specification stands under. -/
def Ask.key : Ask → Value
  | .one key _ => key
  | .oneOf key _ => key

/-- What is asked of pages, each key once. -/
abbrev Spec := List Ask

/-- Ask something: in place of what is asked under the same key, else at the end. -/
def Spec.put (a : Ask) : Spec → Spec
  | [] => [a]
  | b :: bs => if b.key = a.key then a :: bs else b :: Spec.put a bs

/-- The key that asks whether a field is unset. -/
def isNullKey (field : Value) : Value := .text (field.display ++ ".isnull")

def keyOf (v : Value) : Except ShapeFault Value := if v.hashable then .ok v else .error .unhashable

/-- The mark of pages that are left out is unset or false. -/
def notExcluded (field : Value) : Ask :=
  .oneOf (.text orKey) [(isNullKey field, .bool true), (field, .bool false)]

/-- The filter specification of the visible pages.  Null for `excludeDrafts` stands for the setting,
null for `pageId` for all pages. -/
def visible (s : Settings) (t : Traits) (excludeDrafts pageId : Value) : Except ShapeFault Spec := do
  let drafts := if excludeDrafts = .null then s.excludeDrafts else excludeDrafts
  let marked ←
    if t.hasExcludeField.truthy then (keyOf s.excludeField).map fun field => [notExcluded field]
    else .ok []
  let asked ←
    if pageId = .null then .ok marked
    else (keyOf s.idField).map fun field => Spec.put (.one field pageId) marked
  return if drafts.truthy && t.draftAndPublish.truthy then
    Spec.put (.one (isNullKey s.publishedField) (.bool false)) asked
  else asked

def lookupKey : Value → Except ShapeFault String
  | .text key => .ok key
  | v => .error (v.calling "split")

def compileClause (key v : Value) : Except ShapeFault Group := do
  let text ← lookupKey key
  groupOf (Key.ofText text).lookup v

/-- The group of an entry of a specification.  What is asked under the key of alternatives is
alternatives. -/
def Ask.compile : Ask → Except ShapeFault Group
  | .one key v => if key = .text orKey then compileAlternatives v else compileClause key v
  | .oneOf _ alternatives => do
    let groups ← alternatives.mapM fun c =>
      if c.1 = .text orKey then compileAlternatives c.2 else compileClause c.1 c.2
    return Group.combineAll .or groups

def Spec.compile (spec : Spec) : Except ShapeFault Group := do
  let groups ← spec.mapM Ask.compile
  return Group.combineAll .and groups

end Filter
end Sitemap
