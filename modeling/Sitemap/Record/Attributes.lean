/-
The attributes of values.

An object has the attributes it was made with.  Scalars have some too: a number its real and its
imaginary part, a whole number also its numerator and denominator; dates and times the numbers that
they are told in; and an identifier its digits, its number, what kind of identifier it is, and the
fields that the number is put together from.

Attributes that are no such values are left out, and read as missing: the methods that every value
has, the zone of a time, the least step between two dates or times, and the bytes of an identifier.
-/
import Sitemap.Calendar.Reading
import Sitemap.Entries
import Sitemap.Text.Numeral
import Sitemap.Value

namespace Sitemap
namespace Value

open Calendar

def ofNat (n : Nat) : Value := .int n

def wholeAttributes (n : Int) : Entries Value :=
  [("real", .int n), ("imag", .int 0), ("numerator", .int n), ("denominator", .int 1)]

def floatAttributes (s : String) : Entries Value :=
  [("real", .literal .float s), ("imag", .literal .float "0.0")]

def dateNumbers (d : Date) : Entries Value :=
  [("year", ofNat d.year), ("month", ofNat d.month), ("day", ofNat d.day)]

def timeNumbers (t : TimeOfDay) : Entries Value :=
  [("hour", ofNat t.hour), ("minute", ofNat t.minute), ("second", ofNat t.second),
    ("microsecond", ofNat t.micro), ("fold", .int 0)]

def ends (kind : Literal) (first last : String) : Entries Value :=
  [("min", .literal kind first), ("max", .literal kind last)]

/-- Some binary digits of a number: `width` of them, above the last `low`. -/
def bits (n low width : Nat) : Nat := n / Nat.pow 2 low % Nat.pow 2 width

/-- The fields of an identifier, from the first digits to the last. -/
def identifierFields (n : Nat) : Entries Value :=
  [("time_low", ofNat (bits n 96 32)), ("time_mid", ofNat (bits n 80 16)),
    ("time_hi_version", ofNat (bits n 64 16)), ("clock_seq_hi_variant", ofNat (bits n 56 8)),
    ("clock_seq_low", ofNat (bits n 48 8)), ("node", ofNat (bits n 0 48))]

/-- The variant of an identifier, which is told by the first bits of its second half. -/
def identifierVariant (n : Nat) : String :=
  if bits n 63 1 = 0 then "reserved for NCS compatibility"
  else if bits n 62 1 = 0 then "specified in RFC 4122"
  else if bits n 61 1 = 0 then "reserved for Microsoft compatibility"
  else "reserved for future definition"

/-- The version of an identifier, which only those of the standard variant have. -/
def identifierVersion (n : Nat) : Value :=
  if bits n 62 2 = 2 then ofNat (bits n 76 4) else .null

def identifierAttributes (s : String) : Entries Value :=
  let digits := String.ofList (s.toList.filter (· ≠ '-'))
  let n := ((Text.readHex? digits).getD 0).toNat
  [("hex", .text digits), ("int", ofNat n), ("urn", .text ("urn:uuid:" ++ s)),
    ("variant", .text (identifierVariant n)), ("version", identifierVersion n),
    ("fields", .series .tuple ((identifierFields n).map Prod.snd)),
    ("time", ofNat (bits n 64 12 * Nat.pow 2 48 + bits n 80 16 * Nat.pow 2 32 + bits n 96 32)),
    ("clock_seq", ofNat (bits n 48 14))] ++ identifierFields n

/-- The attributes of a spelled scalar. -/
def literalAttributes (kind : Literal) (s : String) : Entries Value :=
  match kind with
  | .float => floatAttributes s
  | .uuid => identifierAttributes s
  | .date =>
    ((Date.read? s).map dateNumbers).getD [] ++ ends .date "0001-01-01" "9999-12-31"
  | .time =>
    ((readClock s.toList).map fun c => timeNumbers c.1).getD []
      ++ ends .time "00:00:00" "23:59:59.999999"
  | .dateTime =>
    ((Moment.read? s).map fun m => dateNumbers m.date ++ timeNumbers m.time).getD []
      ++ ends .dateTime "0001-01-01T00:00:00" "9999-12-31T23:59:59.999999"

def attributes : Value → Entries Value
  | .object es => es
  | .bool b => wholeAttributes b.toNat
  | .int n => wholeAttributes n
  | .literal kind s => literalAttributes kind s
  | _ => []

/-- The version stands at the thirteenth digit, and the variant at the seventeenth. -/
example :
    identifierVersion 0x12345678123446788234567812345678 = .int 4 ∧
      identifierVersion 0x12345678123446781234567812345678 = .null ∧
      identifierVariant 0x12345678123446788234567812345678 = "specified in RFC 4122" := by decide

end Value
end Sitemap
