/-
Tables whose connection fails at chosen calls.

Calls are counted by table and kind.  A plan lists, for a table and a kind, the numbers of the calls
that fail.
-/
import Sitemap.Store.Perform

namespace Sitemap
namespace Store

abbrev FailurePlan := TableName → CallKind → List Nat

/-- How many calls of a kind a table has had. -/
abbrev CallCounts := TableName → CallKind → Nat

namespace CallCounts

def add (c : Call) (counts : CallCounts) : CallCounts := fun t k =>
  if t = c.table ∧ k = c.kind then counts t k + 1 else counts t k

end CallCounts

def failing (plan : FailurePlan) : Environment CallCounts where
  judge counts _ c :=
    let n := counts c.table c.kind + 1
    (if n ∈ plan c.table c.kind then some (.connection c.kind n) else none, counts.add c)

end Store
end Sitemap
