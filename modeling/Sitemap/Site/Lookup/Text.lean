/-
Looking for texts in columns.

Every column keeps its values under a text, in which a part may be looked for without regard to the
case of ASCII.  Texts end there before their first character without a number.  A regular expression
is looked for in all of a text, and with regard to case unless it is told otherwise.

What is looked for is the text of any value, except in identifiers and by expressions: there a value
is handed over as it is, and some cannot be.
-/
import Sitemap.Column.Part
import Sitemap.Site.Test
import Sitemap.Text.Regex.Parse

namespace Sitemap
namespace Site
namespace Test

/-- A text with the capitals of ASCII in lower case. -/
def folded (s : String) : List Char := s.toList.map Char.toLower

def occursIn (part : List Char) : List Char → Bool
  | [] => part.isEmpty
  | c :: cs => part.isPrefixOf (c :: cs) || occursIn part cs

/-- The characters of a text that are looked at: those before the first that has no number. -/
def visible (cs : List Char) : List Char := cs.takeWhile (· ≠ '\x00')

/-- How the text of a column is compared with a part asked for.  A part that is cut off stands at
the end, since what may follow it is cut off as well. -/
def partOperator? (cut : Bool) : String → Option (List Char → List Char → Bool)
  | "contains" | "icontains" =>
    some fun w t => if cut then t.isSuffixOf w else occursIn t w
  | "startswith" | "istartswith" => some fun w t => if cut then w == t else t.isPrefixOf w
  | "endswith" | "iendswith" => some fun w t => t.isSuffixOf w
  | _ => none

/-- The text under which a column of a type keeps a value: truth values as digits, moments without
their distance from universal time, identifiers without hyphens, documents as they are written. -/
def storedText : ColumnType → Value → String
  | .document, v => ColumnType.written ColumnType.spaced v
  | .member, .list [v] => ColumnType.plainText v
  | _, .bool b => toString b.toNat
  | _, .literal .dateTime s => (s.replace "T" " ").replace "+00:00" ""
  | _, .literal .uuid s => s.replace "-" ""
  | _, v => v.display

def askedText (type : ColumnType) (v : Value) : String :=
  if type = .identifier then v.display.replace "-" "" else v.display

def ofText (type : ColumnType) (compare : List Char → List Char → Bool) (asked : String) :
    Test Value :=
  let asked := visible (folded asked)
  .rows fun w => w ≠ .null && compare (visible (folded (storedText type w))) asked

/-- The text of a value that is handed over as it is, none when it is no number. -/
def boundText : Value → Except ColumnFault (Option String)
  | .literal .float "nan" => .ok none
  | .bool b => .ok (some (toString b.toNat))
  | .int n => if ColumnType.fits (.int n) then .ok (some (toString n)) else .error .tooLarge
  | .text s => .ok (some s)
  | .literal .float s => .ok (some (ColumnType.plainText (.literal .float s)))
  | .literal .date s => .ok (some s)
  | .literal .dateTime s => .ok (some (Value.literal .dateTime s).display)
  | _ => .error .unbound

def identifierText : Value → Except ColumnFault (Option String)
  | .literal .dateTime s =>
    (ColumnType.readMoment (.literal .dateTime s)).map fun m => some (storedText .dateTime m)
  | .literal .time s =>
    (ColumnType.readTime (.literal .time s)).map fun t => some (storedText .time t)
  | .literal .uuid s => .ok (some s)
  | v => boundText v

/-- The test by an operator that looks for a part of a text in the texts of a column. -/
def lookFor? (type : ColumnType) (operator asked : String) : Option (Test Value) :=
  (partOperator? (asked.contains '\x00') operator).map fun compare => ofText type compare asked

/-- The test of identifiers by a part of a text, in which hyphens do not count. -/
def ofIdentifierPart? (operator : String) (v : Value) : Option (Test Value) :=
  match identifierText v with
  | .ok (some s) => lookFor? .identifier operator (s.replace "-" "")
  | .ok none => (lookFor? .identifier operator "").map fun _ => .rows fun _ => false
  | .error fault =>
    (lookFor? .identifier operator "").map fun _ => .rows (fun _ => false) (some fault)

/-- The test by an operator that looks for a part of a text, none when it does not. -/
def ofPart? (type : ColumnType) (operator : String) (v : Value) : Option (Test Value) :=
  if type = .identifier then ofIdentifierPart? operator v else lookFor? type operator v.display

/-- The text in which an expression is looked for, where floats have all their digits. -/
def searchedText : ColumnType → Value → String
  | .member, .list [v] =>
    match ColumnType.measured v with
    | .literal .float s => s
    | _ => ColumnType.plainText v
  | type, w => storedText type w

/-- The text of an expression that is asked for: texts and days are, numbers only without regard to
case. -/
def patternText (ignoreCase : Bool) (v : Value) : Except ColumnFault (Option (Option String)) :=
  (boundText v).map fun pattern => pattern.map fun s =>
    if ignoreCase then some ("(?i)" ++ s)
    else match v with
      | .bool _ | .int _ | .literal .float _ => none
      | _ => some s

/-- The test of a column by a regular expression.  What is no expression breaks where there is a
text to look in. -/
def ofPattern (type : ColumnType) (ignoreCase : Bool) (v : Value) : Test Value :=
  match patternText ignoreCase v with
  | .error fault => .rows (fun _ => false) (some fault)
  | .ok none => .rows fun _ => false
  | .ok (some pattern) =>
    match pattern.bind Text.Regex.parse? with
    | some r => .rows fun w => w ≠ .null && r.search (searchedText type w)
    | none => .rows (fun _ => false) none fun w => w ≠ .null

end Test
end Site
end Sitemap
