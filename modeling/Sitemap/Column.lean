/-
Columns of tables and the values they take.

A column has a type.  `ColumnType.read` turns a value into the form that a column of the type holds
and is compared in: whole numbers from numerals and floats, texts from anything, truth values, days
and moments from their usual spellings, moments in universal time, identifiers from hexadecimal
digits, and documents, in which all series are lists.  Null stays null.  A value that has no such
form is refused with a `ColumnFault`.

What can be read need not fit: `fits` and `sound` say what a table can hold.  `read_text` and
`read_document` say that what is stored is read back as it is.
-/
import Sitemap.Calendar.Reading
import Sitemap.Entries
import Sitemap.Value.Display
import Sitemap.Value.Number

namespace Sitemap

/-- Why a column does not take a value. -/
inductive ColumnFault where
  /-- It is no number, or no value that can be asked for. -/
  | noNumber
  /-- It spells nothing of the type. -/
  | misspelled
  /-- Nothing of its kind is a value of the type. -/
  | wrongKind
  /-- It is too large. -/
  | tooLarge
  /-- It holds nothing where one item is needed. -/
  | noItem
  /-- The table does not admit the row. -/
  | refused
  /-- There is no column of this name. -/
  | unknownColumn
  /-- The column cannot be asked in this way. -/
  | unsupported
  /-- The table has no identifier left. -/
  | exhausted
  /-- A value of its kind cannot be handed over. -/
  | unbound
  /-- More or fewer values are given than are asked for. -/
  | miscounted
  /-- What is asked cannot be put into words: a key below zero, or no key at all. -/
  | unaskable
  deriving DecidableEq, Repr

inductive ColumnType where
  | integer
  | text
  | boolean
  | date
  | time
  | dateTime
  | identifier
  | document
  /-- The year that a day belongs to, as a whole number. -/
  | year
  /-- What a document may hold under a key. -/
  | member
  deriving DecidableEq, Repr

namespace ColumnType

open Calendar

/-- The hexadecimal digits of an identifier that a text spells. -/
def hexText (s : String) : String :=
  let stripped := (s.replace "urn:" "").replace "uuid:" ""
  let brace (c : Char) : Bool := c = '{' || c = '}'
  let inner := ((stripped.toList.dropWhile brace).reverse.dropWhile brace).reverse
  String.ofList (inner.filter (· ≠ '-'))

/-- An identifier of 128 binary digits: its hexadecimal digits in five groups. -/
def identifierOf (n : Nat) : Value :=
  let ds := Text.hexDigits 32 n
  let group (start length : Nat) : String := String.ofList ((ds.drop start).take length)
  .literal .uuid (Text.join "-" [group 0 8, group 8 4, group 12 4, group 16 4, group 20 12])

/-- The identifier of a number, if it is small enough. -/
def identifierOf? (n : Int) : Except ColumnFault Value :=
  if 0 ≤ n ∧ n < Nat.pow 2 128 then .ok (identifierOf n.toNat) else .error .misspelled

/-- A value as a whole number. -/
def readInteger : Value → Except ColumnFault Value
  | .null => .ok .null
  | .bool b => .ok (.int b.toNat)
  | .int n => .ok (.int n)
  | .text s =>
    match Text.readInt? s with
    | some n => .ok (.int n)
    | none => .error .noNumber
  | .literal .float s =>
    match Ratio.ofSpelling? s with
    | some r => if r.finite then .ok (.int r.truncate) else .error .tooLarge
    | none => .error .noNumber
  | .literal .uuid s =>
    match Text.readHex? (hexText s) with
    | some n => .ok (.int n)
    | none => .error .noNumber
  | _ => .error .wrongKind

def readText : Value → Value
  | .null => .null
  | v => .text v.display

/-- A value as a truth value; what holds nothing stands for null. -/
def readBoolean : Value → Except ColumnFault Value
  | .null | .text "" | .series .list [] | .series .tuple [] | .mapping [] => .ok .null
  | .text s =>
    if s ∈ ["t", "True", "1"] then .ok (.bool true)
    else if s ∈ ["f", "False", "0"] then .ok (.bool false)
    else .error .misspelled
  | v =>
    match v.number?.bind Ratio.whole? with
    | some 0 => .ok (.bool false)
    | some 1 => .ok (.bool true)
    | _ => .error .misspelled

/-- A moment in universal time. -/
def moment (m : Moment) : Except ColumnFault Value :=
  match m.toUtc? with
  | some u => .ok (.literal .dateTime u.spelling)
  | none => .error .tooLarge

def readMoment : Value → Except ColumnFault Value
  | .null => .ok .null
  | .text s | .literal .dateTime s | .literal .date s =>
    match Moment.read? s with
    | some m => moment m
    | none => .error .misspelled
  | _ => .error .wrongKind

def readDate : Value → Except ColumnFault Value
  | .null => .ok .null
  | .literal .dateTime s =>
    match Moment.read? s with
    | some m =>
      match m.offset, m.toUtc? with
      | some _, some u => .ok (.literal .date u.date.spelling)
      | some _, none => .error .tooLarge
      | none, _ => .ok (.literal .date m.date.spelling)
    | none => .error .misspelled
  | .text s | .literal .date s =>
    match Date.read? s with
    | some d => .ok (.literal .date d.spelling)
    | none => .error .misspelled
  | _ => .error .wrongKind

/-- A value as a time of day, which is told without a distance from universal time. -/
def readTime : Value → Except ColumnFault Value
  | .null => .ok .null
  | .text s =>
    match TimeOfDay.read? s with
    | some t => .ok (.literal .time t.spelling)
    | none => .error .misspelled
  | .literal .time s =>
    match readClock s.toList with
    | some (t, none) => .ok (.literal .time t.spelling)
    | _ => .error .noNumber
  | .literal .dateTime s =>
    match Moment.read? s with
    | some m => .ok (.literal .time m.time.spelling)
    | none => .error .misspelled
  | _ => .error .wrongKind

def readIdentifier : Value → Except ColumnFault Value
  | .null => .ok .null
  | .bool b => identifierOf? b.toNat
  | .int n => identifierOf? n
  | .text s | .literal .uuid s =>
    let hex := hexText s
    match if hex.length = 32 then Text.readHex? hex else none with
    | some n => identifierOf? n
    | none => .error .misspelled
  | .literal .date _ | .literal .dateTime _ | .literal .time _ => .error .wrongKind
  | .object attributes =>
    if (Entries.get? "replace" attributes).isSome then .error .wrongKind else .error .misspelled
  | _ => .error .misspelled

mutual

/-- A value as a document: numbers, texts, truth values and null, in lists and mappings. -/
def readDocument : Value → Except ColumnFault Value
  | .series .list items | .series .tuple items => (readDocuments items).map .list
  | .mapping es => (readEntries es).map .mapping
  | .null => .ok .null
  | .bool b => .ok (.bool b)
  | .int n => .ok (.int n)
  | .text s => .ok (.text s)
  | .literal .float s => .ok (.literal .float s)
  | _ => .error .wrongKind

def readDocuments : List Value → Except ColumnFault (List Value)
  | [] => .ok []
  | v :: vs => do
    let d ← readDocument v
    let ds ← readDocuments vs
    return d :: ds

def readEntries : List (String × Value) → Except ColumnFault (List (String × Value))
  | [] => .ok []
  | (k, v) :: es => do
    let d ← readDocument v
    let ds ← readEntries es
    return (k, d) :: ds

end

/-- The value in the form that a column of the type holds. -/
def read : ColumnType → Value → Except ColumnFault Value
  | .integer, v | .year, v => readInteger v
  | .text, v => .ok (readText v)
  | .boolean, v => readBoolean v
  | .date, v => readDate v
  | .time, v => readTime v
  | .dateTime, v => readMoment v
  | .identifier, v => readIdentifier v
  | .document, v | .member, v => readDocument v

theorem read_text (s : String) : read .text (.text s) = .ok (.text s) := rfl

mutual

theorem readDocument_idem : ∀ (v : Value) {d : Value}, readDocument v = .ok d → readDocument d = .ok d
  | .series form items, d, h => by
    cases form with
    | related => simp [readDocument] at h
    | list | tuple =>
      rw [readDocument] at h
      cases hi : readDocuments items with
      | error e => simp [hi, Except.map] at h
      | ok ds =>
        simp only [hi, Except.map, Except.ok.injEq] at h
        subst h
        simp [readDocument, readDocuments_idem items hi, Except.map]
  | .mapping es, d, h => by
    rw [readDocument] at h
    cases he : readEntries es with
    | error e => simp [he, Except.map] at h
    | ok ds =>
      simp only [he, Except.map, Except.ok.injEq] at h
      subst h
      simp [readDocument, readEntries_idem es he, Except.map]
  | .null, d, h | .bool _, d, h | .int _, d, h | .text _, d, h => by
    simp only [readDocument, Except.ok.injEq] at h
    subst h
    rfl
  | .literal kind s, d, h => by
    cases kind <;> simp only [readDocument, Except.ok.injEq, reduceCtorEq] at h
    subst h
    rfl
  | .object _, d, h => by simp [readDocument] at h

theorem readDocuments_idem : ∀ (vs : List Value) {ds : List Value},
    readDocuments vs = .ok ds → readDocuments ds = .ok ds
  | [], ds, h => by
    simp only [readDocuments, Except.ok.injEq] at h
    subst h
    rfl
  | v :: vs, ds, h => by
    rw [readDocuments] at h
    cases hv : readDocument v with
    | error e => simp [hv, bind, Except.bind] at h
    | ok w =>
      cases hvs : readDocuments vs with
      | error e => simp [hv, hvs, bind, Except.bind] at h
      | ok ws =>
        simp only [hv, hvs, bind, Except.bind, pure, Except.pure, Except.ok.injEq] at h
        subst h
        simp [readDocuments, readDocument_idem v hv, readDocuments_idem vs hvs, bind, Except.bind,
          pure, Except.pure]

theorem readEntries_idem : ∀ (es : List (String × Value)) {ds : List (String × Value)},
    readEntries es = .ok ds → readEntries ds = .ok ds
  | [], ds, h => by
    simp only [readEntries, Except.ok.injEq] at h
    subst h
    rfl
  | (k, v) :: es, ds, h => by
    rw [readEntries] at h
    cases hv : readDocument v with
    | error e => simp [hv, bind, Except.bind] at h
    | ok w =>
      cases hes : readEntries es with
      | error e => simp [hv, hes, bind, Except.bind] at h
      | ok ws =>
        simp only [hv, hes, bind, Except.bind, pure, Except.pure, Except.ok.injEq] at h
        subst h
        simp [readEntries, readDocument_idem v hv, readEntries_idem es hes, bind, Except.bind,
          pure, Except.pure]

end

/-- A stored document is read back as it is. -/
theorem read_document {v d : Value} (h : read .document v = .ok d) : read .document d = .ok d :=
  readDocument_idem v h

/-- Whether a stored number fits into 64 binary digits. -/
def fits : Value → Bool
  | .int n => -Nat.pow 2 63 ≤ n && n < Nat.pow 2 63
  | _ => true

mutual

/-- Whether a document can be written down: every float in it is a finite number. -/
def sound : Value → Bool
  | .literal .float s => ((Ratio.ofSpelling? s).map Ratio.finite).getD false
  | .series _ items => allSound items
  | .mapping es => allEntriesSound es
  | _ => true

def allSound : List Value → Bool
  | [] => true
  | v :: vs => sound v && allSound vs

def allEntriesSound : List (String × Value) → Bool
  | [] => true
  | (_, v) :: es => sound v && allEntriesSound es

end

end ColumnType
end Sitemap
