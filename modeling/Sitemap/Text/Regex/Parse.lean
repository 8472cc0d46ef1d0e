/-
Reading regular expressions.

`Regex.parse?` reads the usual way to write them: sets in brackets, classes and characters after a
backslash, groups with numbers or names, repetitions, places, what is ahead or behind, and flags.
Flags for the whole expression stand at its start.  What is not written like this is no expression.

Every part takes a character at least, so the length of an expression bounds how deep it is read.
-/
import Sitemap.Text.Regex

namespace Sitemap
namespace Text
namespace Regex

structure Flags where
  comparison : Comparison := {}
  /-- Places of lines are where lines are, not where the text is. -/
  lines : Bool := false
  /-- A point stands for a line end as well. -/
  dotAll : Bool := false
  /-- Blanks and comments stand for nothing. -/
  verbose : Bool := false
  deriving DecidableEq, Repr

namespace Flags

def ignoreCase (b : Bool) (f : Flags) : Flags :=
  { f with comparison := { f.comparison with ignoreCase := b } }

def ascii (b : Bool) (f : Flags) : Flags :=
  { f with comparison := { f.comparison with ascii := b } }

/-- Set the flag of a letter, or take it back. -/
def put? (b : Bool) (c : Char) (f : Flags) : Option Flags :=
  match c with
  | 'i' => some (f.ignoreCase b)
  | 'm' => some { f with lines := b }
  | 's' => some { f with dotAll := b }
  | 'x' => some { f with verbose := b }
  | 'a' => if b then some (f.ascii true) else none
  | 'u' => if b then some (f.ascii false) else none
  | _ => none

end Flags

/-- The least and the greatest number of characters that an expression meets. -/
structure Width where
  low : Nat
  high : Option Nat
  deriving DecidableEq, Repr

namespace Width

def add (a b : Width) : Width :=
  ⟨a.low + b.low, a.high.bind fun x => b.high.map fun y => x + y⟩

def either (a b : Width) : Width :=
  ⟨min a.low b.low, a.high.bind fun x => b.high.map fun y => max x y⟩

def times (low : Nat) (high : Option Nat) (a : Width) : Width :=
  ⟨low * a.low, if a.high = some 0 then some 0
    else high.bind fun n => a.high.map fun x => n * x⟩

/-- The number of characters, if it is always the same. -/
def fixed? (a : Width) : Option Nat := if a.high = some a.low then some a.low else none

end Width

def width (groups : List (Nat × Width)) : Regex → Width
  | .empty | .place _ | .look _ _ _ => ⟨0, some 0⟩
  | .set _ => ⟨1, some 1⟩
  | .seq a b => (width groups a).add (width groups b)
  | .alt a b => (width groups a).either (width groups b)
  | .group _ r | .atomic r => width groups r
  | .again n _ => ((groups.find? fun g => g.1 = n).map Prod.snd).getD ⟨0, none⟩
  | .repeated low high _ r => (width groups r).times low high

/-- How far an expression has been read. -/
structure Reader where
  rest : List Char
  /-- How many groups have been opened. -/
  groups : Nat := 0
  names : List (String × Nat) := []
  /-- The groups that have been closed, with their widths. -/
  closed : List (Nat × Width) := []
  /-- In what is to be behind: how many groups had been opened before it. -/
  behind : Option Nat := none

namespace Parse

abbrev Parser := StateT Reader Option

def rest : Parser (List Char) := do return (← get).rest

def goTo (cs : List Char) : Parser Unit := modify fun r => { r with rest := cs }

def next : Parser Char := do
  match ← rest with
  | c :: cs =>
    goTo cs
    return c
  | [] => failure

/-- Whether a character comes next, which is passed over then. -/
def accept (c : Char) : Parser Bool := do
  match ← rest with
  | d :: cs =>
    if c = d then
      goTo cs
      return true
    else return false
  | [] => return false

def expect (c : Char) : Parser Unit := do
  if ← accept c then return () else failure

/-- The characters of a kind that come next, at most so many. -/
def takeSome (most : Nat) (p : Char → Bool) : Parser (List Char) := do
  let cs := ((← rest).take most).takeWhile p
  goTo ((← rest).drop cs.length)
  return cs

/-- The characters before another one, which is passed over. -/
def takeUntil (c : Char) : Parser (List Char) := do
  let (before, after) := ((← rest).takeWhile (· ≠ c), (← rest).dropWhile (· ≠ c))
  match after with
  | _ :: cs =>
    goTo cs
    return before
  | [] => failure

def isDigit (c : Char) : Bool := '0' ≤ c && c ≤ '9'

def isOctal (c : Char) : Bool := '0' ≤ c && c ≤ '7'

def isHex (c : Char) : Bool := c.toNat < 0x80 && (hexDigit? c).isSome

def isLetter (c : Char) : Bool := c.isAlpha

def number (base : Nat) (ds : List Char) : Nat :=
  ds.foldl (fun n c => n * base + (hexDigit? c).getD 0) 0

/-- The code point of so many hexadecimal digits. -/
def codePoint (digits : Nat) : Parser Nat := do
  let ds ← takeSome digits isHex
  let n := number 16 ds
  if ds.length = digits && n < 0x110000 then return n else failure

/-- The code point of octal digits, of which some have been read. -/
def octal (most : Nat) (ds : List Char) : Parser Nat := do
  let n := number 8 (ds ++ (← takeSome most isOctal))
  if n < 0x100 then return n else failure

/-- The class that a letter after a backslash names. -/
def classOf? : Char → Option CharItem
  | 'd' => some (.kind .digit false)
  | 'D' => some (.kind .digit true)
  | 's' => some (.kind .space false)
  | 'S' => some (.kind .space true)
  | 'w' => some (.kind .word false)
  | 'W' => some (.kind .word true)
  | _ => none

/-- The place that a letter after a backslash names. -/
def placeOf? (f : Flags) : Char → Option Anchor
  | 'A' => some .start
  | 'Z' => some .stop
  | 'b' => some (.boundary f.comparison.ascii)
  | 'B' => some (.interior f.comparison.ascii)
  | _ => none

/-- The control character that a letter after a backslash names. -/
def controlOf? : Char → Option Nat
  | 'a' => some 0x7
  | 'f' => some 0xC
  | 'n' => some 0xA
  | 'r' => some 0xD
  | 't' => some 0x9
  | 'v' => some 0xB
  | _ => none

/-- One code point. -/
def single (n : Nat) : CharItem := .range n n

/-- A character after a backslash that stands for a code point. -/
def escaped (c : Char) : Parser Nat := do
  match controlOf? c with
  | some n => return n
  | none =>
    match c with
    | 'x' => codePoint 2
    | 'u' => codePoint 4
    | 'U' => codePoint 8
    | c => if isLetter c || isDigit c then failure else return c.toNat

/-- What a backslash in a set begins. -/
def setEscape : Parser CharItem := do
  let c ← next
  match classOf? c with
  | some item => return item
  | none =>
    if c = 'b' then return single 8
    else if isOctal c then return single (← octal 2 [c])
    else return single (← escaped c)

def ofItem (f : Flags) (item : CharItem) : Regex := .set { items := [item], mode := f.comparison }

/-- A group that has been met before and may be asked for. -/
def known (n : Nat) : Parser Nat := do
  let r ← get
  let before := match r.behind with
    | some count => n ≤ count
    | none => true
  if (r.closed.any fun g => g.1 = n) && before then return n else failure

/-- What digits after a backslash stand for: a code point in octal, or a group. -/
def digitEscape (f : Flags) (c : Char) : Parser Regex := do
  let group (n : Nat) : Parser Regex := do return .again (← known n) f.comparison
  if c = '0' then return ofItem f (single (← octal 2 [c]))
  else
    match ← takeSome 1 isDigit with
    | [d] =>
      let more := isOctal c && isOctal d && ((← rest).head?.any isOctal)
      if more then return ofItem f (single (← octal 1 [c, d]))
      else group (number 10 [c, d])
    | _ => group (number 10 [c])

/-- What a backslash begins. -/
def escape (f : Flags) : Parser Regex := do
  let c ← next
  match classOf? c, placeOf? f c with
  | some item, _ => return ofItem f item
  | none, some anchor => return .place anchor
  | none, none => if isDigit c then digitEscape f c else return ofItem f (single (← escaped c))

def setItem (c : Char) : Parser CharItem :=
  if c = '\\' then setEscape else return single c.toNat

/-- The items of a set up to its bracket, at most so many. -/
def setItems : Nat → List CharItem → Parser (List CharItem)
  | 0, _ => failure
  | bound + 1, items => do
    let c ← next
    if c = ']' && items ≠ [] then return items
    else
      let low ← setItem c
      if ← accept '-' then
        let d ← next
        if d = ']' then return single '-'.toNat :: low :: items
        else
          match low, ← setItem d with
          | .range a _, .range b _ =>
            if a ≤ b then setItems bound (.range a b :: items) else failure
          | _, _ => failure
      else setItems bound (low :: items)

/-- A set after its bracket. -/
def set (f : Flags) : Parser Regex := do
  let negated ← accept '^'
  let items ← setItems ((← rest).length + 1) []
  return .set ⟨items, negated, f.comparison⟩

/-- The numbers of a repetition in braces; none when these are no repetition. -/
def counts? (cs : List Char) : Option (List Char × List Char × List Char) :=
  let (low, cs) := (cs.takeWhile isDigit, cs.dropWhile isDigit)
  let (high, cs) := match cs with
    | ',' :: cs => (cs.takeWhile isDigit, cs.dropWhile isDigit)
    | cs => (low, cs)
  match cs with
  | '}' :: cs => some (low, high, cs)
  | _ => none

/-- How often something may be repeated at most, when it is bounded. -/
def mostOften : Nat := 4294967295

/-- What a repeated part is: something that has a width of its own and is not repeated yet. -/
def repeatable : Regex → Bool
  | .place _ | .repeated _ _ _ _ => false
  | .atomic (.repeated _ _ _ _) => false
  | _ => true

/-- Repeat the last part, lazily or without going back if a mark for it follows. -/
def repeated (low : Nat) (high : Option Nat) : List Regex → Parser (List Regex)
  | [] => failure
  | r :: parts => do
    if !repeatable r then failure
    else if ← accept '?' then return .repeated low high true r :: parts
    else if ← accept '+' then return .atomic (.repeated low high false (.atomic r)) :: parts
    else return .repeated low high false r :: parts

/-- A repetition in braces, or the brace itself. -/
def braced (f : Flags) (parts : List Regex) : Parser (List Regex) := do
  let brace := ofItem f (single '{'.toNat)
  match ← rest with
  | '}' :: _ => return brace :: parts
  | cs =>
    match counts? cs with
    | none => return brace :: parts
    | some (low, high, cs) =>
      goTo cs
      let most := if high = [] then none else some (number 10 high)
      let least := number 10 low
      if mostOften ≤ least || most.any (fun n => mostOften ≤ n || n < least) then failure
      else repeated least most parts

/-- Flags after a question mark: what is set, and whether for the whole expression.  `given` are
those that are set, `taken` those that are taken back once the mark for it has been read. -/
def flags : Nat → Flags → List Char → Option (List Char) → Parser (Flags × Bool)
  | 0, _, _, _ => failure
  | bound + 1, f, given, taken => do
    let c ← next
    match c, taken with
    | ')', none => if given = [] then failure else return (f, true)
    | ':', none => if given = [] then failure else return (f, false)
    | ':', some taken => if taken = [] then failure else return (f, false)
    | '-', none => flags bound f given (some [])
    | c, none =>
      let clash := (c = 'a' && given.contains 'u') || (c = 'u' && given.contains 'a')
      match f.put? true c with
      | some g => if clash then failure else flags bound g (c :: given) none
      | none => failure
    | c, some taken =>
      match f.put? false c with
      | some g => if given.contains c then failure else flags bound g given (some (c :: taken))
      | none => failure

/-- Whether a character may be a flag, or the mark before those that are taken back. -/
def isFlag (c : Char) : Bool := ['i', 'm', 's', 'x', 'a', 'u', '-'].contains c

def isName (cs : List Char) : Bool :=
  cs ≠ [] && cs.all (CharClass.word.has false) && !(cs.head?.any fun c => (digit? c).isSome)

/-- Open a group, which may have a name. -/
def opened (name : Option String) : Parser Nat := do
  let r ← get
  let n := r.groups + 1
  match name with
  | none => modify fun r => { r with groups := n }
  | some name =>
    if r.names.any fun e => e.1 = name then failure
    modify fun r => { r with groups := n, names := (name, n) :: r.names }
  return n

def closing (n : Nat) (part : Regex) : Parser Unit :=
  modify fun r => { r with closed := (n, width r.closed part) :: r.closed }

mutual

/-- A choice, up to a bracket or the end. -/
def choice : Nat → Flags → Parser Regex
  | 0, _ => failure
  | depth + 1, f => do
    let first ← sequence depth f []
    if ← accept '|' then return .alt first (← choice depth f)
    else return first

/-- Parts one after the other; those that have been read are given, the last first. -/
def sequence : Nat → Flags → List Regex → Parser Regex
  | 0, _, _ => failure
  | depth + 1, f, parts => do
    match ← rest with
    | [] | '|' :: _ | ')' :: _ => return parts.foldl (fun after r => .seq r after) .empty
    | c :: cs =>
      goTo cs
      let add (r : Regex) : Parser Regex := sequence depth f (r :: parts)
      if f.verbose && [' ', '\t', '\n', '\r', '\x0b', '\x0c'].contains c then sequence depth f parts
      else if f.verbose && c = '#' then
        goTo ((cs.dropWhile (· ≠ '\n')).drop 1)
        sequence depth f parts
      else
        match c with
        | '\\' => add (← escape f)
        | '[' => add (← set f)
        | '.' =>
          add (.set { items := if f.dotAll then [] else [single '\n'.toNat], negated := true })
        | '^' => add (.place (if f.lines then .lineStart else .start))
        | '$' => add (.place (if f.lines then .lineStop else .lastStop))
        | '*' => sequence depth f (← repeated 0 none parts)
        | '+' => sequence depth f (← repeated 1 none parts)
        | '?' => sequence depth f (← repeated 0 (some 1) parts)
        | '{' => sequence depth f (← braced f parts)
        | '(' =>
          match ← bracket depth f with
          | some r => add r
          | none => sequence depth f parts
        | c => add (ofItem f (single c.toNat))

/-- What follows an opening bracket; a comment is nothing. -/
def bracket : Nat → Flags → Parser (Option Regex)
  | 0, _ => failure
  | depth + 1, f => do
    if !(← accept '?') then return some (← numbered depth f none)
    else
      let c ← next
      match c with
      | ':' => inside depth f (.group none)
      | '>' => inside depth f .atomic
      | '=' => inside depth f (.look none false)
      | '!' => inside depth f (.look none true)
      | '#' =>
        let _ ← takeUntil ')'
        return none
      | '<' =>
        let mark ← next
        if mark = '=' then return some (← lookBehind depth f false)
        else if mark = '!' then return some (← lookBehind depth f true)
        else failure
      | 'P' =>
        if ← accept '<' then
          let name ← takeUntil '>'
          if !isName name then failure
          else return some (← numbered depth f (some (String.ofList name)))
        else if ← accept '=' then
          let name ← takeUntil ')'
          match (← get).names.find? fun e => e.1 = String.ofList name with
          | some (_, n) => return some (.again (← known n) f.comparison)
          | none => failure
        else failure
      | c =>
        if isFlag c then
          goTo (c :: (← rest))
          let (g, whole) ← flags depth f [] none
          if whole then failure else inside depth g (.group none)
        else failure

/-- A choice up to its bracket. -/
def inside : Nat → Flags → (Regex → Regex) → Parser (Option Regex)
  | 0, _, _ => failure
  | depth + 1, f, wrap => do
    let r ← choice depth f
    expect ')'
    return some (wrap r)

def numbered : Nat → Flags → Option String → Parser Regex
  | 0, _, _ => failure
  | depth + 1, f, name => do
    let n ← opened name
    let r ← choice depth f
    expect ')'
    closing n r
    return .group (some n) r

def lookBehind : Nat → Flags → Bool → Parser Regex
  | 0, _, _ => failure
  | depth + 1, f, negated => do
    let outer := (← get).behind
    modify fun r => { r with behind := some (outer.getD r.groups) }
    let r ← choice depth f
    expect ')'
    modify fun r => { r with behind := outer }
    match (width (← get).closed r).fixed? with
    | some n => return .look (some n) negated r
    | none => failure

end

/-- The flags for the whole expression at its start, among comments. -/
def leading : Nat → Flags → Parser Flags
  | 0, f => return f
  | bound + 1, f => do
    match ← rest with
    | '(' :: '?' :: '#' :: cs =>
      goTo cs
      let _ ← takeUntil ')'
      leading bound f
    | '(' :: '?' :: c :: cs =>
      if !isFlag c then return f
      else
        let start ← rest
        goTo (c :: cs)
        let (g, whole) ← flags (bound + 1) f [] none
        if whole then leading bound g
        else
          goTo start
          return f
    | c :: cs =>
      if f.verbose && [' ', '\t', '\n', '\r', '\x0b', '\x0c'].contains c then
        goTo cs
        leading bound f
      else if f.verbose && c = '#' then
        goTo ((cs.dropWhile (· ≠ '\n')).drop 1)
        leading bound f
      else return f
    | [] => return f

/-- An expression, which may be read so deep, and nothing else. -/
def whole (depth : Nat) : Parser Regex := do
  let r ← choice depth (← leading depth {})
  match ← rest with
  | [] => return r
  | _ => failure

end Parse

/-- The expression that a text writes. -/
def parse? (s : String) : Option Regex :=
  (Parse.whole (4 * s.length + 4)).run' { rest := s.toList }

/-- A group that is not closed, and a repetition of nothing, are no expressions. -/
example : (parse? "(a").isNone ∧ (parse? "*").isNone ∧ (parse? "a*").isSome := by
  decide

end Regex
end Text
end Sitemap
