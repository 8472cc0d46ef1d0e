/-
Every way in which a page query or a fetch can fail.
-/
import Sitemap.Column
import Sitemap.ContentType
import Sitemap.Pattern.Error
import Sitemap.Value.Shape

namespace Sitemap

inductive Failure where
  | pattern (error : PatternError)
  | config (error : ConfigError)
  | shape (fault : ShapeFault)
  /-- There is no model of this name. -/
  | unknownModel (name : String)
  /-- A condition or an order names a field that the model lacks. -/
  | unknownField
  /-- A column does not take what it is asked for. -/
  | column (fault : ColumnFault)
  deriving DecidableEq

def Failure.message? : Failure → Option String
  | .pattern e => some e.message
  | .config e => some e.message
  | .shape fault => fault.message?
  | .unknownModel name => some s!"Model '{name}' not found"
  | .unknownField | .column _ => none

end Sitemap
