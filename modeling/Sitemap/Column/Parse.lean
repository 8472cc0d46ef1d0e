/-
How written documents are read.

`ColumnType.parse` reads a text that is a document and nothing else, with blanks, tabs and line ends
between its parts.  Numbers with a fraction or a power of ten are floats; all others are whole and
may not be too long.  A key that comes again gives its place another value.

Every value takes a character at least, so the length of a text bounds how deep it can be read.
-/
import Sitemap.Column
import Sitemap.Value.Float

namespace Sitemap

/-- Why a text is not read as a document. -/
inductive ParseFault where
  /-- It is not written like one. -/
  | malformed
  /-- A whole number in it has more digits than are read. -/
  | tooLong
  deriving DecidableEq, Repr

namespace ColumnType
namespace Parse

/-- Whether a character may stand between the parts of a document. -/
def isSpace (c : Char) : Bool := c = ' ' || c = '\t' || c = '\n' || c = '\r'

def skip (cs : List Char) : List Char := cs.dropWhile isSpace

def isDigit (c : Char) : Bool := '0' ≤ c && c ≤ '9'

/-- The number of a hexadecimal digit of ASCII. -/
def hexDigit? (c : Char) : Option Nat := if c.toNat < 0x80 then Text.hexDigit? c else none

/-- A unit of UTF-16 from its four digits. -/
def unit? (a b c d : Char) : Option Nat := do
  return ((← hexDigit? a) * 16 + (← hexDigit? b)) * 256 + (← hexDigit? c) * 16 + (← hexDigit? d)

/-- What the character after a backslash stands for. -/
def escape? : Char → Option Char
  | '"' => some '"'
  | '\\' => some '\\'
  | '/' => some '/'
  | 'b' => some '\x08'
  | 'f' => some '\x0c'
  | 'n' => some '\n'
  | 'r' => some '\r'
  | 't' => some '\t'
  | _ => none

/-- The units up to the closing quote, where a character beyond those of UTF-16 is one unit. -/
def units? : List Char → Option (List Nat × List Char)
  | '"' :: cs => some ([], cs)
  | '\\' :: 'u' :: a :: b :: c :: d :: cs => do
    let unit ← unit? a b c d
    let (units, rest) ← units? cs
    return (unit :: units, rest)
  | '\\' :: e :: cs => do
    let c ← escape? e
    let (units, rest) ← units? cs
    return (c.toNat :: units, rest)
  | c :: cs =>
    if c < ' ' || c = '\\' then none
    else (units? cs).map fun (units, rest) => (c.toNat :: units, rest)
  | [] => none

/-- The characters of units; two that form a pair are one character, and one of a pair is none. -/
def characters? : List Nat → Option (List Char)
  | [] => some []
  | [n] => if h : n.isValidChar then some [Char.ofNatAux n h] else none
  | n :: m :: us =>
    if 0xD800 ≤ n && n < 0xDC00 && 0xDC00 ≤ m && m < 0xE000 then
      (characters? us).map (Char.ofNat (0x10000 + (n - 0xD800) * 0x400 + (m - 0xDC00)) :: ·)
    else if h : n.isValidChar then (characters? (m :: us)).map (Char.ofNatAux n h :: ·)
    else none

/-- A text after its opening quote. -/
def text (cs : List Char) : Except ParseFault (String × List Char) :=
  match units? cs with
  | some (units, rest) =>
    match characters? units with
    | some s => .ok (String.ofList s, rest)
    | none => .error .malformed
  | none => .error .malformed

/-- A sign before a power of ten. -/
def splitPower : List Char → List Char × List Char
  | e :: cs =>
    if e = 'e' || e = 'E' then
      let (sign, digits) := Text.splitSign cs
      let power := digits.takeWhile isDigit
      if power = [] then ([], e :: cs)
      else (if sign < 0 then '-' :: power else power, digits.dropWhile isDigit)
    else ([], e :: cs)
  | [] => ([], [])

/-- The digits after a point. -/
def splitFraction : List Char → List Char × List Char
  | '.' :: cs =>
    let digits := cs.takeWhile isDigit
    if digits = [] then ([], '.' :: cs) else (digits, cs.dropWhile isDigit)
  | cs => ([], cs)

/-- The digits before a point: a zero, or digits that begin with no zero. -/
def splitWhole : List Char → List Char × List Char
  | '0' :: cs => (['0'], cs)
  | cs => (cs.takeWhile isDigit, cs.dropWhile isDigit)

/-- The number that digits stand for. -/
def numeral (ds : List Char) : Nat := ds.foldl (fun n c => n * 10 + (c.toNat - '0'.toNat)) 0

/-- The float nearest to digits times a power of ten.  Powers beyond those of all floats are cut
off, which keeps the nearest float. -/
def float (negative : Bool) (digits : List Char) (power : Int) : Value :=
  let n := numeral digits
  let leading := power + (Text.toDigits n).length
  let r : Ratio :=
    if leading < -400 then ⟨0, 1⟩
    else if 400 < leading then ⟨if n = 0 then 0 else 1, if n = 0 then 1 else 0⟩
    else
      let (a, b) := scaled 10 power n 1
      ⟨a, b⟩
  .literal .float ((if negative then "-" else "") ++ r.spelling)

/-- The whole number that a power of ten is written as. -/
def powerOf : List Char → Int
  | '-' :: ds => -(numeral ds : Int)
  | ds => numeral ds

/-- A number without its sign. -/
def unsigned (negative : Bool) (cs : List Char) : Except ParseFault (Value × List Char) :=
  let (whole, rest) := splitWhole cs
  let (fraction, rest) := splitFraction rest
  let (power, rest) := splitPower rest
  if whole = [] then .error .malformed
  else if fraction = [] && power = [] then
    if whole.length ≤ Text.mostDigits then
      .ok (.int (if negative then -(numeral whole : Int) else numeral whole), rest)
    else .error .tooLong
  else .ok (float negative (whole ++ fraction) (powerOf power - (fraction.length : Nat)), rest)

def names : List (String × Value) :=
  [("null", .null), ("true", .bool true), ("false", .bool false), ("NaN", .literal .float "nan"),
    ("Infinity", .literal .float "inf"), ("-Infinity", .literal .float "-inf")]

/-- A value of one part: a named one or a number. -/
def scalar (cs : List Char) : Except ParseFault (Value × List Char) :=
  match names.find? fun e => e.1.toList.isPrefixOf cs with
  | some (name, v) => .ok (v, cs.drop name.length)
  | none =>
    match cs with
    | '-' :: cs => unsigned true cs
    | cs => unsigned false cs

mutual

def value : Nat → List Char → Except ParseFault (Value × List Char)
  | 0, _ => .error .malformed
  | depth + 1, cs =>
    match cs with
    | '"' :: cs => (text cs).map fun (s, rest) => (.text s, rest)
    | '[' :: cs =>
      match skip cs with
      | ']' :: rest => .ok (.list [], rest)
      | cs => (items depth cs).map fun (vs, rest) => (.list vs, rest)
    | '{' :: cs =>
      match skip cs with
      | '}' :: rest => .ok (.mapping [], rest)
      | cs => (entries depth cs).map fun (es, rest) => (.mapping (Entries.ofPairs es), rest)
    | cs => scalar cs

def items : Nat → List Char → Except ParseFault (List Value × List Char)
  | 0, _ => .error .malformed
  | depth + 1, cs => do
    let (v, rest) ← value depth cs
    match skip rest with
    | ']' :: rest => return ([v], rest)
    | ',' :: rest =>
      let (vs, rest) ← items depth (skip rest)
      return (v :: vs, rest)
    | _ => throw .malformed

/-- The entries of a mapping, of which there is one at least. -/
def entries : Nat → List Char → Except ParseFault (List (String × Value) × List Char)
  | 0, _ => .error .malformed
  | depth + 1, cs => do
    let (k, rest) ← match cs with
      | '"' :: cs => text cs
      | _ => throw .malformed
    let rest ← match skip rest with
      | ':' :: rest => pure (skip rest)
      | _ => throw .malformed
    let (v, rest) ← value depth rest
    match skip rest with
    | '}' :: rest => return ([(k, v)], rest)
    | ',' :: rest =>
      let (es, rest) ← entries depth (skip rest)
      return ((k, v) :: es, rest)
    | _ => throw .malformed

end

end Parse

/-- The document that a text writes. -/
def parse (s : String) : Except ParseFault Value :=
  match Parse.value (2 * s.length + 1) (Parse.skip s.toList) with
  | .ok (v, rest) => if Parse.skip rest = [] then .ok v else .error .malformed
  | .error fault => .error fault

/-- What is written between quotes is a text, what is not written like a document is none. -/
example : (parse "\"a\"").toOption = some (.text "a") ∧
    (parse "a").toOption = none := by decide

end ColumnType
end Sitemap
