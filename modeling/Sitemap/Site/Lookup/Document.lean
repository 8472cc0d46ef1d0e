/-
Looking for documents and for what stands in them.

Documents are compared by how they are written, their parts by their plain forms, with numbers before
texts.  Keys are looked for one by one, or one below the other.
-/
import Sitemap.Distinct
import Sitemap.Site.Lookup.Order
import Sitemap.Value.Shape

namespace Sitemap
namespace Site
namespace Test

def itemsOf (v : Value) : Except ColumnFault (List Value) := v.elements.mapError fun _ => .wrongKind

/-- A test for a value that is given: null cannot be asked for. -/
def given (v : Value) (test : Test Value) : Except ColumnFault (Test Value) :=
  if v = .null then .error .noNumber else .ok test

def askedKeys (v : Value) : Except ColumnFault (List String) :=
  (v.elements.mapError fun _ => ColumnFault.wrongKind).map fun keys => keys.map Value.display

/-- The keys that a value stands for, one below the other: a text for itself, other values for how
they are written, where a point parts two keys. -/
def keysOf (v : Value) : Except ColumnFault (List String) :=
  match v with
  | .text s => .ok [s]
  | v => (ColumnType.readDocument v).map fun d =>
    Text.parts '.' (ColumnType.written ColumnType.spaced d)

/-- Whether there is something under some keys, one below the other. -/
def hasKeys (keys : List String) (document : Value) : Bool :=
  (keys.foldlM (fun d key => ColumnType.under? key d) document).isSome

def inner (type : ColumnType) (w : Value) : Value :=
  match type, w with
  | .member, .list [v] => v
  | .member, _ => .null
  | _, w => w

/-- The test of one key, which may be the one item of a series. -/
def ofKey (type : ColumnType) (v : Value) : Test Value :=
  let one (v : Value) : Test Value :=
    match keysOf v with
    | .ok keys => .rows fun w => hasKeys keys (inner type w)
    | .error fault => .failing fault
  match v with
  | .series .list [item] | .series .tuple [item] => one item
  | .series .list _ | .series .tuple _ => .rows (fun _ => false) (some .miscounted)
  | v => one v

def ofAll (type : ColumnType) (holds : List String → (String → Bool) → Bool) (keys : List String) :
    Test Value :=
  .rows (fun w => holds keys fun key => hasKeys [key] (inner type w))
    (if keys = [] then some .unaskable else none)

/-- The test of the keys of a document, or of what stands in one. -/
def ofKeys (type : ColumnType) (operator : String) (v : Value) :
    Option (Except ColumnFault (Test Value)) :=
  match operator with
  | "has_key" => some (given v (ofKey type v))
  | "has_keys" => some ((askedKeys v).map (ofAll type List.all))
  | "has_any_keys" => some ((askedKeys v).map (ofAll type List.any))
  | "contains" | "contained_by" => some (given v (.failing .unsupported))
  | _ => none

def asDocument (v : Value) (test : Value → Test Value) : Test Value :=
  match ColumnType.readDocument v with
  | .ok asked => test asked
  | .error fault => .failing fault

def asDocuments (items : List Value) (test : List Value → Test Value) : Test Value :=
  match items.mapM ColumnType.readDocument with
  | .ok asked => test asked
  | .error fault => .failing fault

/-- The items that are asked for: no null, and if all can be keys, none that is like an earlier
one. -/
def askedItems (items : List Value) : List Value :=
  (if items.all Value.hashable then distinctBy Value.alike items else items).filter (· ≠ .null)

def writtenForm (w : Value) : Value := .text (ColumnType.written ColumnType.spaced w)

/-- The test of a document, which is ordered by how it is written. -/
def ofDocument (operator : String) (v : Value) : Option (Except ColumnFault (Test Value)) :=
  match operator with
  | "exact" => some (.ok (asDocument v fun asked => .rows fun w => w == asked))
  | "in" => some ((itemsOf v).map fun items => asDocuments (askedItems items) fun asked =>
      if asked = [] then .nothing else .rows fun w => w ∈ asked)
  | "range" => some ((itemsOf v).map fun items => asDocuments items fun asked =>
      between below (fun w => some (writtenForm w)) (asked.map writtenForm))
  | _ =>
    ((orderOperator? below operator).map fun compare =>
      given v (asDocument v fun asked =>
        .rows fun w => w ≠ .null && compare (writtenForm w) (writtenForm asked))).or
      (ofKeys .document operator v)

def plainForm? : Value → Option Value
  | .list [w] => some (ColumnType.plainForm w)
  | _ => none

/-- Whether a part of a document is there and like one of some values. -/
def likeOne (vs : List Value) : Test Value :=
  let forms := vs.map ColumnType.plainForm
  .rows fun w => (plainForm? w).any (· ∈ forms)

/-- The test of a part of a document by an operator of order; lists and mappings cannot be asked
for, and nothing is ordered with what is no number. -/
def ofPlainOrder (compare : Value → Value → Bool) (asked : Value) : Test Value :=
  match asked with
  | .series _ _ | .mapping _ => .rows (fun _ => false) (some .unbound)
  | .literal .float "nan" => .rows fun _ => false
  | .bool b => .rows fun w => (plainForm? w).any fun w => compare w (.int b.toNat)
  | v =>
    let form := ColumnType.plainForm v
    .rows (fun w => (plainForm? w).any fun w => compare w form) (sizeFault? v)

def ofMember (operator : String) (v : Value) : Option (Except ColumnFault (Test Value)) :=
  match operator with
  | "exact" => some (.ok (asDocument v fun asked => likeOne [asked]))
  | "in" => some ((itemsOf v).map fun items => asDocuments (askedItems items) fun asked =>
      if asked = [] then .nothing else likeOne asked)
  | "range" => some ((itemsOf v).map fun items => asDocuments items fun asked =>
      between belowPlain plainForm? (asked.map writtenForm))
  | "isnull" => some (given v (null v.truthy))
  | _ =>
    ((orderOperator? belowPlain operator).map fun compare =>
      given v (asDocument v (ofPlainOrder compare))).or (ofKeys .member operator v)

end Test
end Site
end Sitemap
