/-
How documents are written down.

Texts stand in double quotes, with every character that is no printable one of ASCII escaped as one
or two units of UTF-16.  A `Layout` says what parts the items of a list and what parts a key from its
value: tables keep documents `spaced`, and a list or a mapping inside of one is asked for `compact`.
-/
import Sitemap.Column

namespace Sitemap
namespace ColumnType

structure Layout where
  comma : String
  colon : String

/-- Blanks after commas and colons. -/
def spaced : Layout := ⟨", ", ": "⟩

def compact : Layout := ⟨",", ":"⟩

def escapedUnit (n : Nat) : String := "\\u" ++ String.ofList (Text.hexDigits 4 n)

/-- A character as it is written between double quotes. -/
def escaped (c : Char) : String :=
  match c with
  | '"' => "\\\""
  | '\\' => "\\\\"
  | '\n' => "\\n"
  | '\r' => "\\r"
  | '\t' => "\\t"
  | '\x08' => "\\b"
  | '\x0c' => "\\f"
  | c =>
    if ' ' ≤ c ∧ c ≤ '~' then String.singleton c
    else if c.toNat < 0x10000 then escapedUnit c.toNat
    else
      let n := c.toNat - 0x10000
      escapedUnit (0xD800 + n / 0x400) ++ escapedUnit (0xDC00 + n % 0x400)

def quoted (s : String) : String := "\"" ++ Text.join "" (s.toList.map escaped) ++ "\""

/-- What is printable in ASCII is written as it is, another character by its number. -/
example : quoted "a 1" = "\"a 1\"" ∧ quoted "é\"" = "\"\\u00e9\\\"\"" := by decide

/-- A float; those that are no finite number are written by their names. -/
def writtenFloat : String → String
  | "nan" => "NaN"
  | "inf" => "Infinity"
  | "-inf" => "-Infinity"
  | s => s

mutual

def written (l : Layout) : Value → String
  | .null => "null"
  | .bool b => toString b
  | .int n => toString n
  | .text s => quoted s
  | .literal .float s => writtenFloat s
  | .literal _ s => quoted s
  | .series _ items => "[" ++ Text.join l.comma (writtenItems l items) ++ "]"
  | .mapping es | .object es => "\x7b" ++ Text.join l.comma (writtenEntries l es) ++ "\x7d"

def writtenItems (l : Layout) : List Value → List String
  | [] => []
  | v :: vs => written l v :: writtenItems l vs

def writtenEntries (l : Layout) : List (String × Value) → List String
  | [] => []
  | (k, v) :: es => (quoted k ++ l.colon ++ written l v) :: writtenEntries l es

end

end ColumnType
end Sitemap
