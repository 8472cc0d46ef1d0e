/-
The address of a page: a pattern with the values of a record in place of its tokens.

The pattern must scan.  Its bracket groups are then found by a walk of their own, `pieces`: a group
is an opening bracket, one or more characters that are no brackets, and a closing one, and every
other character stands for itself.  A group is replaced by the text of its value, by nothing when
there is no value, and stays as it is when it reads a field of a relation that holds many records,
which is reported.  Replaced text is not looked at again.  Last comes the canonical form of the
path.
-/
import Sitemap.Failure
import Sitemap.Notice
import Sitemap.Pattern.Scan
import Sitemap.Pattern.Slashes

namespace Sitemap
namespace Pattern

/-- A character that stands for itself, or the path of a bracket group. -/
inductive Piece where
  | char (c : Char)
  | group (path : List Char)
  deriving DecidableEq, Repr

/-- An opening bracket and what follows it, when no group comes of them. -/
def Piece.plain (path : List Char) : List Piece := .char '[' :: path.map .char

/-- The pieces of what is left of a pattern.  After an opening bracket `opened` holds the characters
since. -/
def piecesFrom (opened : Option (List Char)) : List Char → List Piece
  | [] =>
    match opened with
    | none => []
    | some path => Piece.plain path
  | c :: cs =>
    match opened with
    | none => if c = '[' then piecesFrom (some []) cs else .char c :: piecesFrom none cs
    | some path =>
      if c = '[' then Piece.plain path ++ piecesFrom (some []) cs
      else if c = ']' then
        if path = [] then Piece.plain [] ++ .char ']' :: piecesFrom none cs
        else .group path :: piecesFrom none cs
      else piecesFrom (some (path ++ [c])) cs

def pieces (pattern : String) : List Piece := piecesFrom none pattern.toList

/-- What takes the place of a group: a text, or the group itself, since its relation holds many
records. -/
inductive Replacement where
  | value (text : String)
  | kept
  deriving DecidableEq, Repr

def Token.replacement (record : Entries Value) (t : Token) : Replacement :=
  match t.relation? with
  | none => .value ((Entries.get? t.field record).getD .null).displayOrEmpty
  | some relation =>
    match Entries.get? relation record with
    | some (.series .list _) | some (.series .tuple _) => .kept
    | some (.mapping related) => .value ((Entries.get? t.field related).getD .null).displayOrEmpty
    | _ => .value ""

def Piece.fill (record : Entries Value) : Piece → List Char
  | .char c => [c]
  | .group path =>
    match (Token.ofPath (String.ofList path)).replacement record with
    | .value text => text.toList
    | .kept => '[' :: path ++ [']']

/-- What is reported about a piece. -/
def Piece.notice? (record : Entries Value) : Piece → Option Notice
  | .char _ => none
  | .group path =>
    let t := Token.ofPath (String.ofList path)
    match t.replacement record with
    | .value _ => none
    | .kept => some (.manyRecords t.path t.head)

/-- An address and what was reported on the way. -/
structure Address where
  url : String
  notices : List Notice
  deriving DecidableEq

/-- The path before it is made canonical. -/
def substituted (pattern : String) (record : Entries Value) : String :=
  String.ofList ((pieces pattern).flatMap (·.fill record))

def fill (pattern : String) (record : Entries Value) : Address where
  url := canonical (substituted pattern record)
  notices := (pieces pattern).filterMap (·.notice? record)

/-- Whether a pattern looks anything up. -/
def hasGroup (pattern : String) : Bool :=
  (pieces pattern).any fun
    | .group _ => true
    | .char _ => false

def address (pattern : String) (record : Entries Value) : Except PatternError Address :=
  (tokens pattern).map fun _ => fill pattern record

/-- The address of any value: only a mapping can be looked up in, and a value of another shape does
as long as the pattern looks nothing up. -/
def addressOf (pattern : String) (record : Value) : Except Failure Address := do
  let _ ← (tokens pattern).mapError .pattern
  match record with
  | .mapping es => return fill pattern es
  | v => if hasGroup pattern then .error (.shape (v.calling "get")) else return fill pattern []

end Pattern
end Sitemap
