/-
The text of a value.

`Value.display` writes a value by itself: a text as it is, null, truth values and numbers by their
names, a spelled scalar by its spelling.  `Value.quoted` writes it as part of a series or a mapping,
where a text stands between quotes: between single ones, or between double ones when it holds a
single and no double one.  The quote in use, the backslash, the line feed, the carriage return and
the tab are escaped there, and other characters that are not printable are given by their numbers.
-/
import Sitemap.Calendar.Reading
import Sitemap.Text.Printable
import Sitemap.Text.Split
import Sitemap.Value

namespace Sitemap
namespace Text

/-- The last `width` digits of a number in hexadecimal. -/
def hexDigits : Nat → Nat → List Char
  | 0, _ => []
  | width + 1, n => hexDigits width (n / 16) ++ [Nat.digitChar (n % 16)]

/-- A character given by its number, with as many digits as it needs of two, four and eight. -/
def numbered (c : Char) : List Char :=
  let n := c.toNat
  if n < 0x100 then '\\' :: 'x' :: hexDigits 2 n
  else if n < 0x10000 then '\\' :: 'u' :: hexDigits 4 n
  else '\\' :: 'U' :: hexDigits 8 n

/-- A character inside quotes `q`. -/
def escapeChar (q c : Char) : List Char :=
  if c = q || c = '\\' then ['\\', c]
  else if c = '\n' then ['\\', 'n']
  else if c = '\r' then ['\\', 'r']
  else if c = '\t' then ['\\', 't']
  else if isPrintable c then [c]
  else numbered c

def singleQuote : Char := Char.ofNat 0x27
def doubleQuote : Char := Char.ofNat 0x22

/-- The quote that a text is written between. -/
def quoteFor (cs : List Char) : Char :=
  if cs.contains singleQuote && !cs.contains doubleQuote then doubleQuote else singleQuote

/-- A text between quotes. -/
def quote (s : String) : String :=
  let q := quoteFor s.toList
  String.ofList (q :: s.toList.flatMap (escapeChar q) ++ [q])

end Text

open Text

namespace Calendar

def Date.numbers (d : Date) : List String := [toString d.year, toString d.month, toString d.day]

/-- The numbers of a time of day, without the seconds when both they and the microseconds are zero,
and without the microseconds when they are zero. -/
def TimeOfDay.numbers (t : TimeOfDay) : List String :=
  [toString t.hour, toString t.minute]
    ++ (if t.second = 0 ∧ t.micro = 0 then [] else [toString t.second])
    ++ (if t.micro = 0 then [] else [toString t.micro])

/-- A part of a length of time, unless it is zero. -/
def lengthPart (name : String) (n : Int) : List String := if n = 0 then [] else [s!"{name}={n}"]

/-- A distance from universal time as part of a longer form: days, which are negative or none, and
what has to be added to them. -/
def offsetForm (offset : Int) : String :=
  if offset = 0 then "tzinfo=datetime.timezone.utc"
  else
    let rest := offset % dayMicros
    let parts := lengthPart "days" (offset / dayMicros) ++ lengthPart "seconds" (rest / 1000000)
      ++ lengthPart "microseconds" (rest % 1000000)
    "tzinfo=datetime.timezone(datetime.timedelta(" ++ join ", " parts ++ "))"

/-- The long form of some numbers and a distance from universal time. -/
def longForm (name : String) (numbers : List String) (offset : Option Int) : String :=
  name ++ "(" ++ join ", " (numbers ++ (offset.map offsetForm).toList) ++ ")"

end Calendar

open Calendar

/-- A spelled scalar inside a series or a mapping. -/
def Literal.quoted (kind : Literal) (spelling : String) : String :=
  let form : Option String := match kind with
    | .float => none
    | .uuid => some ("UUID(" ++ quote spelling ++ ")")
    | .date => (Date.read? spelling).map fun d => longForm "datetime.date" d.numbers none
    | .time => (readClock spelling.toList).map fun (t, offset) =>
      longForm "datetime.time" t.numbers offset
    | .dateTime => (Moment.read? spelling).map fun m =>
      longForm "datetime.datetime" (m.date.numbers ++ m.time.numbers) m.offset
  form.getD spelling

/-- The items of a series between its brackets. -/
def Form.bracket : Form → List String → String
  | .tuple, [item] => "(" ++ item ++ ",)"
  | .tuple, items => "(" ++ join ", " items ++ ")"
  | _, items => "[" ++ join ", " items ++ "]"

namespace Value

mutual

/-- The text of a value inside a series or a mapping. -/
def quoted : Value → String
  | .null => "None"
  | .bool true => "True"
  | .bool false => "False"
  | .int n => toString n
  | .text s => quote s
  | .literal kind spelling => kind.quoted spelling
  | .series form items => form.bracket (quotedItems items)
  | .mapping entries => "\x7b" ++ join ", " (quotedEntries entries) ++ "\x7d"
  | .object attributes => "namespace(" ++ join ", " (quotedAttributes attributes) ++ ")"

def quotedItems : List Value → List String
  | [] => []
  | v :: vs => quoted v :: quotedItems vs

def quotedEntries : List (String × Value) → List String
  | [] => []
  | (k, v) :: es => (quote k ++ ": " ++ quoted v) :: quotedEntries es

def quotedAttributes : List (String × Value) → List String
  | [] => []
  | (k, v) :: es => (k ++ "=" ++ quoted v) :: quotedAttributes es

end

/-- The text of a value by itself.  A date and time are set apart by a blank. -/
def display : Value → String
  | .text s => s
  | .literal .dateTime spelling => join " " (parts 'T' spelling)
  | .literal _ spelling => spelling
  | v => quoted v

/-- The text of a value by itself, the empty text for null. -/
def displayOrEmpty : Value → String
  | .null => ""
  | v => display v

end Value
end Sitemap
