/-
Reading dates and times.

The standard forms are those of ISO 8601: year, month and day with hyphens or without, or year, week
and day of the week; any character; and hours, minutes and seconds with colons or without, perhaps
with a fraction and a distance from universal time.  They are read leniently: a fraction may follow
any of the numbers, a stray character may stand before the distance, and a NUL ends the text.

The relaxed form allows for single digits and for blanks before the distance.  `Moment.read?`,
`TimeOfDay.read?` and `Date.read?` try the standard forms first.
-/
import Sitemap.Calendar
import Sitemap.Text.Numeral

namespace Sitemap
namespace Calendar

/-- What is read from the front of some characters, and what is left of them. -/
abbrev Reader (α : Type) := List Char → Option (α × List Char)

/-- The number that a digit of ASCII stands for. -/
def asciiDigit? (c : Char) : Option Nat := if c.toNat < 128 then Text.digit? c else none

/-- The number that the digits of `value?` at the front stand for, at most `most` of them. -/
def takeNumber (value? : Char → Option Nat) : Nat → Nat → Reader Nat
  | 0, n, cs => some (n, cs)
  | _ + 1, n, [] => some (n, [])
  | most + 1, n, c :: cs =>
    match value? c with
    | some d => takeNumber value? most (10 * n + d) cs
    | none => some (n, c :: cs)

def number (value? : Char → Option Nat) (least most : Nat) : Reader Nat := fun cs => do
  let (n, rest) ← takeNumber value? most 0 cs
  if cs.length - rest.length < least then none else some (n, rest)

def digits (count : Nat) : Reader Nat := number asciiDigit? count count

def oneOf (allowed : List Char) : Reader Char
  | [] => none
  | c :: cs => if c ∈ allowed then some (c, cs) else none

/-- Whether a text ends here, which a NUL brings about too. -/
def ends : List Char → Bool
  | [] => true
  | c :: _ => c = '\x00'

/-- The sign of a distance from universal time. -/
def sign? (c : Char) : Option Int :=
  if c = '+' then some 1 else if c = '-' then some (-1) else none

/-- What is read, if nothing is left. -/
def whole {α : Type} (r : Option (α × List Char)) : Option α :=
  match r with
  | some (a, []) => some a
  | _ => none

namespace Date

/-- The standard form with month and day, at the front of some characters. -/
def readMonthForm (cs : List Char) : Option Date := do
  let (year, cs) ← digits 4 cs
  match cs with
  | '-' :: cs =>
    let (month, cs) ← digits 2 cs
    let (_, cs) ← oneOf ['-'] cs
    let (day, _) ← digits 2 cs
    of? year month day
  | cs =>
    let (month, cs) ← digits 2 cs
    let (day, _) ← digits 2 cs
    of? year month day

/-- The day of the week behind a week; Monday when nothing follows. -/
def readWeekday (hyphens : Bool) : List Char → Option Nat
  | [] => some 1
  | cs => do
    let (_, cs) ← if hyphens then oneOf ['-'] cs else some ('-', cs)
    let (weekday, _) ← digits 1 cs
    return weekday

/-- The standard form with a week, at the front of some characters. -/
def readWeekForm (cs : List Char) : Option Date := do
  let (year, cs) ← digits 4 cs
  let (mark, cs) ← oneOf ['-', 'W'] cs
  let cs ← if mark = 'W' then some cs else (oneOf ['W'] cs).map Prod.snd
  let (week, cs) ← digits 2 cs
  let weekday ← readWeekday (mark = '-') cs
  ofWeek? year week weekday

/-- The numbers of bytes that a standard date takes. -/
def standardSizes : List Nat := [7, 8, 10]

/-- The standard forms.  The size of the text counts, and not what stands behind the numbers. -/
def readStandard (cs : List Char) : Option Date :=
  if (String.ofList cs).utf8ByteSize ∈ standardSizes then (readMonthForm cs).or (readWeekForm cs)
  else none

/-- Year, month and day with hyphens between them, the last two perhaps of one digit. -/
def readRelaxed (cs : List Char) : Option (Nat × Nat × Nat × List Char) := do
  let (year, cs) ← number Text.digit? 4 4 cs
  let (_, cs) ← oneOf ['-'] cs
  let (month, cs) ← number Text.digit? 1 2 cs
  let (_, cs) ← oneOf ['-'] cs
  let (day, cs) ← number Text.digit? 1 2 cs
  return (year, month, day, cs)

/-- The date that a text writes. -/
def read? (s : String) : Option Date :=
  (readStandard s.toList).or do
    let (year, month, day, rest) ← readRelaxed s.toList
    if rest = [] ∨ rest = ['\n'] then of? year month day else none

end Date

/-- A text without a line feed at its end. -/
def dropLineFeed (cs : List Char) : List Char :=
  if cs.getLast? = some '\n' then cs.dropLast else cs

namespace TimeOfDay

/-- A standard fraction in microseconds: six digits or, if there is less, all that is left. -/
def readFraction : Reader Nat := fun cs => do
  let width := min 6 cs.length
  let (n, rest) ← digits width cs
  return (n * Nat.pow 10 (6 - width), rest.dropWhile fun c => (asciiDigit? c).isSome)

/-- The numbers of a standard time of day, at most `count` of them, with its microseconds.  The
first number tells whether there are colons between them.  A single character of ASCII behind a
number is left over. -/
def readNumbers : Nat → Option Bool → Reader (List Nat × Nat)
  | 0, _, cs => (readFraction cs).map fun (micro, rest) => (([], micro), rest)
  | count + 1, colons, cs => do
    let (n, cs) ← digits 2 cs
    match cs with
    | [] => return (([n], 0), [])
    | c :: rest =>
      let colons := colons.getD (c = ':')
      if rest = [] ∧ c.toNat < 128 then return (([n], 0), [c])
      else if c = '.' ∨ c = ',' then
        let (micro, rest) ← readFraction rest
        return (([n], micro), rest)
      else
        let following ← if colons then (oneOf [':'] cs).map Prod.snd else some cs
        let ((ns, micro), rest) ← readNumbers count (some colons) following
        return ((n :: ns, micro), rest)

/-- The standard form of a time of day; the numbers are not looked at. -/
def readStandard : Reader TimeOfDay := fun cs => do
  let ((ns, micro), rest) ← readNumbers 3 none cs
  return (⟨ns.getD 0 0, ns.getD 1 0, ns.getD 2 0, micro⟩, rest)

/-- The seconds of the relaxed form, if there are any, with up to twelve digits of a fraction. -/
def readRelaxedSeconds : Reader (Nat × Nat)
  | ':' :: cs => do
    let (second, cs) ← number Text.digit? 1 2 cs
    match cs with
    | '.' :: cs | ',' :: cs =>
      let (n, rest) ← number Text.digit? 1 6 cs
      let (_, following) ← number Text.digit? 0 6 rest
      return ((second, n * Nat.pow 10 (6 - (cs.length - rest.length))), following)
    | cs => return ((second, 0), cs)
  | cs => some ((0, 0), cs)

/-- The relaxed form of a time of day; the numbers are not looked at. -/
def readRelaxed : Reader TimeOfDay := fun cs => do
  let (hour, cs) ← number Text.digit? 1 2 cs
  let (_, cs) ← oneOf [':'] cs
  let (minute, cs) ← number Text.digit? 1 2 cs
  let ((second, micro), cs) ← readRelaxedSeconds cs
  return (⟨hour, minute, second, micro⟩, cs)

end TimeOfDay

/-- The distance from universal time behind its sign, which is less than a day. -/
def offsetOf? (sign : Int) (t : TimeOfDay) : Option Int :=
  if (t.micros : Int) < dayMicros then some (sign * t.micros) else none

/-- A distance from universal time in its standard form; one of less than a second is none. -/
def readOffset : List Char → Option Int
  | [] => none
  | 'Z' :: cs => if ends cs then some 0 else none
  | c :: cs => do
    let sign ← sign? c
    let (time, rest) ← TimeOfDay.readStandard cs
    if !ends rest then none
    else if time.micros < 1000000 then some 0
    else offsetOf? sign time

/-- A time of day and a distance from universal time, if one follows it.  What is left over of the
time is passed over when a distance follows. -/
def readClock (cs : List Char) : Option (TimeOfDay × Option Int) := do
  let clock := cs.takeWhile fun c => c ∉ ['Z', '+', '-']
  let (time, stray) ← TimeOfDay.readStandard clock
  let offset ← match cs.drop clock.length with
    | [] => if ends stray then some none else none
    | rest => (readOffset rest).map some
  if time.valid then some (time, offset) else none

/-- The time of day that a text writes.  In the standard form there may be a `T` before it and a
distance from universal time behind it. -/
def TimeOfDay.read? (s : String) : Option TimeOfDay :=
  let clock := if s.toList.head? = some 'T' then s.toList.drop 1 else s.toList
  ((readClock clock).map Prod.fst).or do
    let time ← whole (readRelaxed (dropLineFeed s.toList))
    if time.valid then some time else none

namespace Moment

/-- How long the standard date at the front of a moment is.  A digit behind a week may be the day of
the week or belong to what follows: with a hyphen before it, it is the day unless another digit
follows; without one, the number of digits up to the next other character decides. -/
def dateLength (cs : List Char) : Nat :=
  match cs.drop 4 with
  | '-' :: 'W' :: _ :: _ :: '-' :: _ :: c :: _ => if (asciiDigit? c).isSome then 8 else 10
  | '-' :: 'W' :: _ :: _ :: '-' :: _ => 10
  | '-' :: 'W' :: _ => 8
  | '-' :: _ => 10
  | 'W' :: week =>
    let last := 7 + ((week.drop 2).takeWhile fun c => (asciiDigit? c).isSome).length
    if last < 9 then last else if last % 2 = 0 then 7 else 8
  | _ => 8

/-- The standard form: a date, any character, a time of day; or a date alone. -/
def readStandard (cs : List Char) : Option Moment := do
  let date ← Date.readStandard (cs.take (dateLength cs))
  match cs.drop (dateLength cs) with
  | [] => return { date := date }
  | _ :: clock =>
    let (time, offset) ← readClock clock
    return ⟨date, time, offset⟩

/-- The distance that ends the relaxed form: hours and minutes of two digits. -/
def readRelaxedOffset : List Char → Option (Option Int)
  | [] => some none
  | ['Z'] => some (some 0)
  | c :: cs => do
    let sign ← sign? c
    let (hour, cs) ← number Text.digit? 2 2 cs
    let minute ← match cs with
      | [] => some 0
      | ':' :: cs => whole (number Text.digit? 2 2 cs)
      | cs => whole (number Text.digit? 2 2 cs)
    (offsetOf? sign ⟨hour, minute, 0, 0⟩).map some

def readRelaxed (cs : List Char) : Option Moment := do
  let (year, month, day, cs) ← Date.readRelaxed (dropLineFeed cs)
  let (_, cs) ← oneOf ['T', ' '] cs
  let (time, cs) ← TimeOfDay.readRelaxed cs
  let offset ← readRelaxedOffset (cs.dropWhile Text.isBlank)
  let date ← Date.of? year month day
  if time.valid then some ⟨date, time, offset⟩ else none

/-- The moment that a text writes; a date alone is its midnight. -/
def read? (s : String) : Option Moment :=
  (readStandard s.toList).or ((readRelaxed s.toList).or ((Date.read? s).map fun d => { date := d }))

end Moment
end Calendar
end Sitemap
