/-
The canonical form of an address path: it starts with a slash, and no two slashes are adjacent.
-/

namespace Sitemap
namespace Pattern

def collapse : List Char → List Char
  | [] => []
  | [c] => [c]
  | c :: d :: cs => if c = '/' ∧ d = '/' then collapse (d :: cs) else c :: collapse (d :: cs)

/-- With a slash in front, unless there is one. -/
def rooted : List Char → List Char
  | [] => ['/']
  | c :: cs => if c = '/' then c :: cs else '/' :: c :: cs

def canonical (path : String) : String := String.ofList (rooted (collapse path.toList))

end Pattern
end Sitemap
