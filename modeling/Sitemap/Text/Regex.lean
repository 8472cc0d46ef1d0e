/-
Regular expressions.

An expression is looked for in a text from left to right and, where there is a choice, tries one way
after the other: `run` is given a place in the text and what has to follow, and answers with the
first way in which both can be met.  Groups remember which part of the text they met last, so that
an expression can ask for the same part again.

A repetition goes on only from another place than before, so the length of the text bounds how often
it is tried.
-/
import Sitemap.Text.Alphanumeric
import Sitemap.Text.Numeral
import Sitemap.Text.Variants

namespace Sitemap
namespace Text

inductive CharClass where
  | digit
  | space
  | word
  deriving DecidableEq, Repr

/-- Whether a character is of a class, for which only characters of ASCII may count. -/
def CharClass.has (ascii : Bool) (k : CharClass) (c : Char) : Bool :=
  (!ascii || c.toNat < 0x80) &&
    match k with
    | .digit => (digit? c).isSome
    | .space => isBlank c && !(ascii && 0x1C ≤ c.toNat && c.toNat < 0x20)
    | .word => isAlphanumeric c || c = '_'

inductive CharItem where
  | range (low high : Nat)
  | kind (k : CharClass) (negated : Bool)
  deriving DecidableEq, Repr

/-- How characters are compared. -/
structure Comparison where
  /-- Whether case makes no difference. -/
  ignoreCase : Bool := false
  /-- Whether classes and cases are those of ASCII. -/
  ascii : Bool := false
  deriving DecidableEq, Repr

/-- The code points that count as the same as a character. -/
def Comparison.likes (mode : Comparison) (c : Char) : List Nat :=
  if !mode.ignoreCase then [c.toNat]
  else if mode.ascii then asciiVariants c
  else variants c

def CharItem.has (mode : Comparison) (c : Char) : CharItem → Bool
  | .range low high => (mode.likes c).any fun n => low ≤ n && n ≤ high
  | .kind k negated => k.has mode.ascii c != negated

/-- A set of characters: those of its items, or all others. -/
structure CharSet where
  items : List CharItem
  negated : Bool := false
  mode : Comparison := {}
  deriving DecidableEq, Repr

def CharSet.has (s : CharSet) (c : Char) : Bool := s.items.any (·.has s.mode c) != s.negated

inductive Anchor where
  | start
  /-- The start, or behind a line end. -/
  | lineStart
  | stop
  /-- The end, or before a line end there. -/
  | lastStop
  /-- The end, or before a line end. -/
  | lineStop
  /-- Between a character of a word and one that is none. -/
  | boundary (ascii : Bool)
  /-- Where no such place is, in a text that is not empty. -/
  | interior (ascii : Bool)
  deriving DecidableEq, Repr

def wordAt (ascii : Bool) (text : Array Char) (n : Nat) : Bool :=
  (text[n]?).any (CharClass.word.has ascii)

/-- Whether one side of a place is in a word and the other is not. -/
def wordEdge (ascii : Bool) (text : Array Char) (n : Nat) : Bool :=
  (n ≠ 0 && wordAt ascii text (n - 1)) != wordAt ascii text n

def Anchor.holds (text : Array Char) (n : Nat) : Anchor → Bool
  | .start => n = 0
  | .lineStart => n = 0 || text[n - 1]? = some '\n'
  | .stop => n = text.size
  | .lastStop => n = text.size || (n + 1 = text.size && text[n]? = some '\n')
  | .lineStop => n = text.size || text[n]? = some '\n'
  | .boundary ascii => text.size ≠ 0 && wordEdge ascii text n
  | .interior ascii => text.size ≠ 0 && !wordEdge ascii text n

inductive Regex where
  | empty
  | set (s : CharSet)
  | seq (a b : Regex)
  | alt (a b : Regex)
  /-- A part in brackets, which may have a number. -/
  | group (number : Option Nat) (r : Regex)
  /-- What a group has met. -/
  | again (number : Nat) (mode : Comparison)
  /-- As often as possible or, if it is lazy, as seldom as possible. -/
  | repeated (low : Nat) (high : Option Nat) (isLazy : Bool) (r : Regex)
  | place (anchor : Anchor)
  /-- What is ahead, or behind in a width, which is to be there or not. -/
  | look (behind : Option Nat) (negated : Bool) (r : Regex)
  /-- The first way alone. -/
  | atomic (r : Regex)
  deriving Repr

namespace Regex

/-- A place that has been reached, and what the groups have met on the way, the last first. -/
structure Match where
  position : Nat
  groups : List (Nat × Nat × Nat) := []
  deriving Repr

/-- What has been met by a group that began at a place. -/
def Match.close (number : Option Nat) (start : Nat) (m : Match) : Match :=
  match number with
  | some n => { m with groups := (n, start, m.position) :: m.groups }
  | none => m

/-- Whether two characters count as the same. -/
def sameChar (mode : Comparison) (c d : Char) : Bool :=
  if !mode.ignoreCase then c == d
  else if mode.ascii then c.toLower == d.toLower
  else lowered c == lowered d

/-- Whether the same as from `a` on stands from `b` on, for a number of characters. -/
def sameText (mode : Comparison) (text : Array Char) (a b : Nat) : Nat → Bool
  | 0 => true
  | n + 1 =>
    (match text[a]?, text[b]? with
      | some c, some d => sameChar mode c d
      | _, _ => false) && sameText mode text (a + 1) (b + 1) n

/-- The place behind what a group has met, if that stands here again. -/
def Match.repeat? (text : Array Char) (number : Nat) (mode : Comparison) (m : Match) :
    Option Match :=
  match m.groups.find? fun g => g.1 = number with
  | some (_, start, stop) =>
    if sameText mode text start m.position (stop - start) then
      some { m with position := m.position + (stop - start) }
    else none
  | none => none

/-- Repeat a step, at most `bound` times.  When it has been repeated often enough, it is not tried
again at the place where it was tried `last`. -/
def iterate (step : Match → (Match → Option Match) → Option Match) (low : Nat) (high : Option Nat)
    (isLazy : Bool) : Nat → Nat → Option Nat → Match → (Match → Option Match) → Option Match
  | 0, _, _, m, k => k m
  | bound + 1, count, last, m, k =>
    if count < low then step m fun m' => iterate step low high isLazy bound (count + 1) last m' k
    else
      let more (_ : Unit) : Option Match :=
        if high.all (count < ·) && last ≠ some m.position then
          step m fun m' =>
            iterate step low high isLazy bound (count + 1) (some m.position) m' k
        else none
      if isLazy then k m <|> more () else more () <|> k m

/-- The first way to meet an expression from a place on, and then what has to follow. -/
def run (text : Array Char) : Regex → Match → (Match → Option Match) → Option Match
  | .empty, m, k => k m
  | .set s, m, k =>
    if (text[m.position]?).any s.has then k { m with position := m.position + 1 } else none
  | .seq a b, m, k => run text a m fun m => run text b m k
  | .alt a b, m, k => run text a m k <|> run text b m k
  | .group number r, m, k => run text r m fun m' => k (m'.close number m.position)
  | .again number mode, m, k => (m.repeat? text number mode).bind k
  | .repeated low high isLazy r, m, k =>
    iterate (run text r) low high isLazy (low + text.size + 2) 0 none m k
  | .place anchor, m, k => if anchor.holds text m.position then k m else none
  | .look behind negated r, m, k =>
    let width := behind.getD 0
    let seen := if width ≤ m.position then run text r { m with position := m.position - width } some
      else none
    match seen, negated with
    | some m', false => k { m' with position := m.position }
    | none, true => k m
    | _, _ => none
  | .atomic r, m, k => (run text r m some).bind k

/-- Whether an expression is met from some place of a text on. -/
def search (r : Regex) (s : String) : Bool :=
  let text := s.toList.toArray
  (List.range (text.size + 1)).any fun n => (run text r ⟨n, []⟩ some).isSome

end Regex
end Text
end Sitemap
