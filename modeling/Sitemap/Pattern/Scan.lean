/-
Scanning an address pattern for its tokens.

`scan` walks the characters once.  Its state is the position and, inside a bracket, where the
bracket opened and the path read so far; the first flaw met ends it.  `tokens` is the scan of a
whole pattern.  Tokens come left to right, repeats included.
-/
import Sitemap.Pattern.Error
import Sitemap.Pattern.Token

namespace Sitemap
namespace Pattern

/-- The token of a bracket that opened at `start` and closed around `path`. -/
def Token.close (start : Nat) (path : List Char) : Except Flaw Token :=
  let t := Token.ofPath (String.ofList path)
  if path = [] then .error ⟨.empty, start⟩
  else if t.valid then .ok t
  else .error ⟨.invalidPath (String.ofList path), start⟩

/-- The tokens of what is left of a pattern from `position` on.  Inside a bracket `opened` holds its
position and the characters after it. -/
def scan (position : Nat) (opened : Option (Nat × List Char)) :
    List Char → Except Flaw (List Token)
  | [] =>
    match opened with
    | none => .ok []
    | some (start, _) => .error ⟨.unterminated, start⟩
  | c :: cs =>
    match opened with
    | none =>
      if c = '[' then scan (position + 1) (some (position, [])) cs
      else if c = ']' then .error ⟨.unmatched, position⟩
      else scan (position + 1) none cs
    | some (start, path) =>
      if c = '[' then .error ⟨.nested, position⟩
      else if c = ']' then do
        let t ← Token.close start path
        let ts ← scan (position + 1) none cs
        return t :: ts
      else scan (position + 1) (some (start, path ++ [c])) cs

/-- The tokens of a pattern, left to right. -/
def tokens (pattern : String) : Except PatternError (List Token) :=
  (scan 0 none pattern.toList).mapError (·.inPattern pattern)

end Pattern
end Sitemap
