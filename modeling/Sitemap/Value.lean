/-
The values that content is made of.

Content records, settings and filter arguments come from outside and may hold anything: scalars,
series of values, mappings in entry order, and objects with attributes.  A value that is only ever
handed on or written out (a float, a date, a time, an identifier) is carried by its spelling.

A series is a list, a tuple, or the related records that a relation hands out; all three mean "many
values".  `truthy` says which values count as given, `Value.same_iff` that equality is decidable.
-/

namespace Sitemap

/-- The kinds of scalar that are carried by their spelling. -/
inductive Literal where
  | float
  | date
  | dateTime
  | time
  | uuid
  deriving DecidableEq, Repr

/-- How a series came about: written as a list or a tuple, or handed out by a relation. -/
inductive Form where
  | list
  | tuple
  | related
  deriving DecidableEq, Repr

inductive Value where
  | null
  | bool (b : Bool)
  | int (n : Int)
  | text (s : String)
  | literal (kind : Literal) (spelling : String)
  | series (form : Form) (items : List Value)
  | mapping (entries : List (String × Value))
  | object (attributes : List (String × Value))
  deriving Inhabited

namespace Value

@[match_pattern] abbrev list (items : List Value) : Value := .series .list items

def texts (names : List String) : Value := .list (names.map .text)

/-- Whether a value counts as given: not null, false, zero, or empty. -/
def truthy : Value → Bool
  | .null => false
  | .bool b => b
  | .int n => n != 0
  | .text s => s != ""
  | .literal .float spelling => spelling != "0.0" && spelling != "-0.0"
  | .literal _ _ => true
  | .series .related _ => true
  | .series _ items => !items.isEmpty
  | .mapping entries => !entries.isEmpty
  | .object _ => true

def typeName : Value → String
  | .null => "NoneType"
  | .bool _ => "bool"
  | .int _ => "int"
  | .text _ => "str"
  | .literal .float _ => "float"
  | .literal .date _ => "date"
  | .literal .dateTime _ => "datetime"
  | .literal .time _ => "time"
  | .literal .uuid _ => "UUID"
  | .series .list _ => "list"
  | .series .tuple _ => "tuple"
  | .series .related _ => "Manager"
  | .mapping _ => "dict"
  | .object _ => "SimpleNamespace"

mutual

def same : Value → Value → Bool
  | .null, .null => true
  | .bool a, .bool b => a == b
  | .int a, .int b => a == b
  | .text a, .text b => a == b
  | .literal k a, .literal l b => k == l && a == b
  | .series f as, .series g bs => f == g && sameItems as bs
  | .mapping as, .mapping bs => sameEntries as bs
  | .object as, .object bs => sameEntries as bs
  | _, _ => false

def sameItems : List Value → List Value → Bool
  | [], [] => true
  | a :: as, b :: bs => same a b && sameItems as bs
  | _, _ => false

def sameEntries : List (String × Value) → List (String × Value) → Bool
  | [], [] => true
  | (k, a) :: as, (l, b) :: bs => k == l && same a b && sameEntries as bs
  | _, _ => false

end

mutual

theorem same_iff : ∀ a b : Value, same a b = true ↔ a = b
  | .null, b | .bool _, b | .int _, b | .text _, b | .literal _ _, b => by
    cases b <;> simp [same]
  | .series _ as, b => by
    cases b with
    | series g bs => simp [same, sameItems_iff as bs]
    | _ => simp [same]
  | .mapping as, b => by
    cases b with
    | mapping bs => simp [same, sameEntries_iff as bs]
    | _ => simp [same]
  | .object as, b => by
    cases b with
    | object bs => simp [same, sameEntries_iff as bs]
    | _ => simp [same]

theorem sameItems_iff : ∀ as bs : List Value, sameItems as bs = true ↔ as = bs
  | [], bs => by cases bs <;> simp [sameItems]
  | a :: as, bs => by
    cases bs with
    | nil => simp [sameItems]
    | cons b bs => simp [sameItems, same_iff a b, sameItems_iff as bs]

theorem sameEntries_iff : ∀ as bs : List (String × Value), sameEntries as bs = true ↔ as = bs
  | [], bs => by cases bs <;> simp [sameEntries]
  | (k, a) :: as, bs => by
    cases bs with
    | nil => simp [sameEntries]
    | cons b bs =>
      obtain ⟨l, b⟩ := b
      simp [sameEntries, same_iff a b, sameEntries_iff as bs]

end

instance : DecidableEq Value := fun a b => decidable_of_iff _ (same_iff a b)

end Value
end Sitemap
