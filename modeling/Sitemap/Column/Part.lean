/-
Parts of what a column holds that a lookup can name.

Of days and moments these are the year, the month, the day of the week and so on, as numbers, and the
day and the time of day of a moment.  Weeks begin on Monday and belong to the year that has their
Thursday.

Of documents it is what stands under a key, where a key that spells a number counts the items of a
list.  A part of a document is written as a list of one item, so that nothing is not taken for null,
and the empty list says that a list was to be counted by a number below zero, which cannot be done.

A part is handed out as it stands, but a whole number that does not fit into 64 binary digits as the
nearest float, and a text that is written like a document as that document.  Two parts are the same
in their `plainForm`: numbers by what they are, null and the truth values like the texts of their
names, and lists and mappings like the texts that they are written as.
-/
import Sitemap.Column.Document
import Sitemap.Column.Parse
import Sitemap.Value.Equality

namespace Sitemap
namespace Calendar
namespace Date

/-- The number of the day of the week, where Monday is 0. -/
def weekday (d : Date) : Nat := ((d.ordinal + 6) % 7).toNat

/-- The year that the week of the day belongs to. -/
def weekYear (d : Date) : Nat :=
  if d.ordinal < firstMonday d.year then d.year - 1
  else if firstMonday (d.year + 1) ≤ d.ordinal then d.year + 1
  else d.year

/-- The number of the week in the year that it belongs to. -/
def week (d : Date) : Nat := ((d.ordinal - firstMonday d.weekYear) / 7 + 1).toNat

/-- The first day of 2021 is a Friday in the last week of 2020. -/
example :
    weekday ⟨2021, 1, 1⟩ = 4 ∧ weekYear ⟨2021, 1, 1⟩ = 2020 ∧ week ⟨2021, 1, 1⟩ = 53 := by decide

def yearPart? : String → Option (Date → Nat)
  | "year" => some year
  | "iso_year" => some weekYear
  | _ => none

/-- The number that another part of a day is. -/
def part? : String → Option (Date → Nat)
  | "month" => some month
  | "day" => some day
  | "quarter" => some fun d => (d.month + 2) / 3
  | "week_day" => some fun d => (d.weekday + 1) % 7 + 1
  | "iso_week_day" => some fun d => d.weekday + 1
  | "week" => some week
  | _ => none

end Date

def TimeOfDay.part? : String → Option (TimeOfDay → Nat)
  | "hour" => some hour
  | "minute" => some minute
  | "second" => some second
  | _ => none

end Calendar

namespace ColumnType

open Calendar

/-- What a stored day becomes. -/
def onDate (f : Date → Value) : Value → Value
  | .literal .date s => ((Date.read? s).map f).getD .null
  | _ => .null

/-- What a stored time of day becomes. -/
def onTime (f : TimeOfDay → Value) : Value → Value
  | .literal .time s => ((TimeOfDay.read? s).map f).getD .null
  | _ => .null

/-- What a stored moment becomes. -/
def onMoment (f : Moment → Value) : Value → Value
  | .literal .dateTime s => ((Moment.read? s).map f).getD .null
  | _ => .null

def count (n : Nat) : Value := .int n

/-- What stands in a mapping under a key.  Keys with a double quote in them are not found. -/
def under? (key : String) : Value → Option Value
  | .mapping es => if key.contains '"' then none else Entries.get? key es
  | _ => none

/-- What stands in a document under a key.  Numbers count items in 32 binary digits. -/
def entryOf? (key : String) (document : Value) : Option Value :=
  match Text.readInt? key, document with
  | some n, .list items => items[n.toNat % Nat.pow 2 32]?
  | some _, _ => none
  | none, document => under? key document

/-- What a part of a document is that cannot be looked for. -/
def unreachable : Value := .list []

/-- Whether a key counts the items of a list by a number below zero. -/
def countsBelow (key : String) : Value → Bool
  | .list _ => ((Text.readInt? key).map fun n => decide (n < 0)).getD false
  | _ => false

def memberOf (key : String) (document : Value) : Value :=
  if countsBelow key document then unreachable
  else
    match entryOf? key document with
    | some v => .list [v]
    | none => .null

def memberOfMember (key : String) : Value → Value
  | .list [v] => memberOf key v
  | .list [] => unreachable
  | _ => .null

/-- A number as it is taken out of a document: one that does not fit is the nearest float. -/
def measured : Value → Value
  | .int n => if fits (.int n) then .int n else .literal .float (Ratio.ofInt n).spelling
  | v => v

def handedOut : Value → Except ColumnFault Value
  | .text s =>
    match parse s with
    | .ok v => .ok v
    | .error .malformed => .ok (.text s)
    | .error .tooLong => .error .noNumber
  | v => .ok (measured v)

/-- The form that parts of documents are compared in. -/
def plainForm (v : Value) : Value :=
  match measured v with
  | .null => .text "null"
  | .bool b => .text (toString b)
  | .int n => .int n
  | .literal .float s => (Value.literal .float s).canonical
  | .text s => .text s
  | v => .text (written compact v)

/-- The names of null and of the truth values are like these. -/
example : plainForm .null = plainForm (.text "null") ∧
    plainForm (.bool true) = plainForm (.text "true") ∧
    plainForm (.bool false) = plainForm (.text "false") := ⟨rfl, rfl, rfl⟩

/-- The text of a part of a document, in which floats have at most fifteen digits. -/
def plainText (v : Value) : String :=
  match measured v with
  | .literal .float s => ((Ratio.ofSpelling? s).map Ratio.brief).getD s
  | _ => (plainForm v).display

def datePart? (name : String) : Option (ColumnType × (Date → Value)) :=
  match Date.yearPart? name, Date.part? name with
  | some f, _ => some (.year, fun d => count (f d))
  | none, some f => some (.integer, fun d => count (f d))
  | none, none => none

def timePart? (name : String) : Option (ColumnType × (TimeOfDay → Value)) :=
  (TimeOfDay.part? name).map fun f => (.integer, fun t => count (f t))

def momentPart? (name : String) : Option (ColumnType × (Moment → Value)) :=
  if name = "date" then some (.date, fun m => .literal .date m.date.spelling)
  else if name = "time" then some (.time, fun m => .literal .time m.time.spelling)
  else match datePart? name, timePart? name with
    | some (type, f), _ => some (type, fun m => f m.date)
    | none, some (type, f) => some (type, fun m => f m.time)
    | none, none => none

/-- The type of a part of what a column of a type holds, and how the part is read. -/
def part? (type : ColumnType) (name : String) : Option (ColumnType × (Value → Value)) :=
  match type with
  | .date => (datePart? name).map fun (type, f) => (type, onDate f)
  | .time => (timePart? name).map fun (type, f) => (type, onTime f)
  | .dateTime => (momentPart? name).map fun (type, f) => (type, onMoment f)
  | .document => some (.member, memberOf name)
  | .member => some (.member, memberOfMember name)
  | _ => none

end ColumnType
end Sitemap
