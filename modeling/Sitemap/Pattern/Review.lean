/-
The verdict on a pattern before it goes into a configuration.

A pattern passes when it has a token, scans, and reads no path outside the allowed ones.
-/
import Sitemap.Pattern.Scan
import Sitemap.Value.Members

namespace Sitemap
namespace Pattern

inductive Verdict where
  | valid
  | empty
  | withoutField
  | malformed
  | forbidden
  deriving DecidableEq, Repr

def Verdict.message : Verdict → String
  | .valid => "Valid pattern"
  | .empty => "Pattern can not be empty"
  | .withoutField => "Pattern should contain at least one field"
  | .malformed => "Fields in the pattern are not escaped correctly"
  | .forbidden => "Pattern contains forbidden fields"

/-- The verdict on a pattern that may read the paths `allowed`. -/
def review (pattern : String) (allowed : List String) : Verdict :=
  if pattern = "" then .empty
  else if !pattern.toList.contains '[' || !pattern.toList.contains ']' then .withoutField
  else match tokens pattern with
    | .error _ => .malformed
    | .ok ts => if ts.all fun t => allowed.contains t.path then .valid else .forbidden

/-- The verdict on a pattern with the allowed paths written as any value, which is looked at when
the pattern has been scanned. -/
def reviewAmong (pattern : String) (allowed : Value) : Except ShapeFault Verdict :=
  match review pattern [] with
  | .valid | .forbidden => allowed.nameSet.map (review pattern)
  | verdict => .ok verdict

end Pattern
end Sitemap
