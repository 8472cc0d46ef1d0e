/-
Dates and times of the Gregorian calendar, which is taken to reach back to the year 1.

Days are numbered from the first day of the year 1, which has the number 1.  The years of the count
begin in March, so that the leap day comes last: `marchDays` is the number of days before a month of
such a year.

A moment is a date and a time of day, perhaps with its distance from universal time in microseconds.
`Moment.instant` numbers moments through, and `Moment.toUtc?` tells the same moment in universal
time.
-/

namespace Sitemap
namespace Calendar

/-- The digits of a number, with zeros in front up to a width. -/
def padded (width n : Nat) : String :=
  let digits := toString n
  String.ofList (List.replicate (width - digits.length) '0') ++ digits

structure Date where
  year : Nat
  month : Nat
  day : Nat
  deriving DecidableEq, Repr

namespace Date

def isLeap (year : Nat) : Bool := year % 4 = 0 && (year % 100 ≠ 0 || year % 400 = 0)

def daysIn (year month : Nat) : Nat :=
  if month = 2 then if isLeap year then 29 else 28
  else if month = 4 ∨ month = 6 ∨ month = 9 ∨ month = 11 then 30
  else 31

def of? (year month day : Nat) : Option Date :=
  if 1 ≤ year ∧ year ≤ 9999 ∧ 1 ≤ month ∧ month ≤ 12 ∧ 1 ≤ day ∧ day ≤ daysIn year month then
    some ⟨year, month, day⟩
  else none

/-- The days of the year before a month, when months are counted from March as 0. -/
def marchDays (month : Nat) : Nat := (153 * month + 2) / 5

/-- The number of the day. -/
def ordinal (d : Date) : Int :=
  let year := if d.month ≤ 2 then d.year - 1 else d.year
  let month := if d.month ≤ 2 then d.month + 9 else d.month - 3
  (365 * year + year / 4 - year / 100 + year / 400 + marchDays month + d.day : Nat) - 306

/-- The number of the last day of the year 9999. -/
def lastOrdinal : Int := 3652059

def ofOrdinal? (n : Int) : Option Date :=
  if n < 1 ∨ lastOrdinal < n then none
  else
    let days := (n + 305).toNat
    let cycle := days % 146097
    let yearOfCycle := (cycle - cycle / 1460 + cycle / 36524 - cycle / 146096) / 365
    let dayOfYear := cycle - (365 * yearOfCycle + yearOfCycle / 4 - yearOfCycle / 100)
    let month := (5 * dayOfYear + 2) / 153
    let year := yearOfCycle + 400 * (days / 146097)
    let day := dayOfYear - marchDays month + 1
    some (if month < 10 then ⟨year, month + 3, day⟩ else ⟨year + 1, month - 9, day⟩)

/-- The first day of the year 1 has the number 1, and the last day counted its own. -/
example :
    ofOrdinal? 1 = some ⟨1, 1, 1⟩ ∧ ofOrdinal? lastOrdinal = some ⟨9999, 12, 31⟩ := by decide

/-- Year, month and day with hyphens between them. -/
def spelling (d : Date) : String :=
  padded 4 d.year ++ "-" ++ padded 2 d.month ++ "-" ++ padded 2 d.day

/-- The number of the Monday on which the first week of a year begins: the week that has the first
Thursday of the year. -/
def firstMonday (year : Nat) : Int :=
  let newYear := ordinal ⟨year, 1, 1⟩
  let weekday := (newYear + 6) % 7
  if 3 < weekday then newYear - weekday + 7 else newYear - weekday

/-- The number of weeks that begin in a year. -/
def weeksIn (year : Nat) : Int := (firstMonday (year + 1) - firstMonday year) / 7

def ofWeek? (year week weekday : Nat) : Option Date :=
  if 1 ≤ year ∧ 1 ≤ week ∧ week ≤ weeksIn year ∧ 1 ≤ weekday ∧ weekday ≤ 7 then
    ofOrdinal? (firstMonday year + 7 * (week - 1 : Nat) + (weekday - 1 : Nat))
  else none

end Date

structure TimeOfDay where
  hour : Nat := 0
  minute : Nat := 0
  second : Nat := 0
  micro : Nat := 0
  deriving DecidableEq, Repr

namespace TimeOfDay

def valid (t : TimeOfDay) : Bool :=
  t.hour < 24 && t.minute < 60 && t.second < 60 && t.micro < 1000000

/-- The microseconds since midnight. -/
def micros (t : TimeOfDay) : Nat :=
  ((t.hour * 60 + t.minute) * 60 + t.second) * 1000000 + t.micro

def ofMicros (n : Nat) : TimeOfDay where
  hour := n / 3600000000
  minute := n / 60000000 % 60
  second := n / 1000000 % 60
  micro := n % 1000000

/-- A time of day is found again from its microseconds. -/
theorem ofMicros_micros {t : TimeOfDay} (h : t.valid = true) : ofMicros t.micros = t := by
  obtain ⟨hour, minute, second, micro⟩ := t
  simp only [valid, Bool.and_eq_true, decide_eq_true_eq] at h
  simp only [ofMicros, micros, TimeOfDay.mk.injEq]
  omega

/-- The microseconds after a point, if there are any. -/
def fraction (t : TimeOfDay) : String := if t.micro = 0 then "" else "." ++ padded 6 t.micro

def spelling (t : TimeOfDay) : String :=
  padded 2 t.hour ++ ":" ++ padded 2 t.minute ++ ":" ++ padded 2 t.second ++ t.fraction

end TimeOfDay

def dayMicros : Int := 86400000000

/-- A distance from universal time, with its seconds if there are any. -/
def offsetSpelling (offset : Int) : String :=
  let t := TimeOfDay.ofMicros offset.natAbs
  let seconds := if t.second = 0 ∧ t.micro = 0 then "" else ":" ++ padded 2 t.second ++ t.fraction
  (if offset < 0 then "-" else "+") ++ padded 2 t.hour ++ ":" ++ padded 2 t.minute ++ seconds

structure Moment where
  date : Date
  time : TimeOfDay := {}
  /-- The distance from universal time in microseconds, if it is known. -/
  offset : Option Int := none
  deriving DecidableEq, Repr

namespace Moment

/-- The microseconds in universal time since the day before the first one; a moment whose distance
is not known is taken to be told in universal time. -/
def instant (m : Moment) : Int := m.date.ordinal * dayMicros + m.time.micros - m.offset.getD 0

/-- The moment in universal time, if its date is in the calendar. -/
def toUtc? (m : Moment) : Option Moment :=
  (Date.ofOrdinal? (m.instant / dayMicros)).map fun date =>
    ⟨date, TimeOfDay.ofMicros (m.instant % dayMicros).toNat, some 0⟩

def spelling (m : Moment) : String :=
  m.date.spelling ++ "T" ++ m.time.spelling ++ (m.offset.map offsetSpelling).getD ""

end Moment
end Calendar
end Sitemap
