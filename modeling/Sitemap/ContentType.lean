/-
Content types: the address patterns of a kind of page, one per language, and its options.

A content type is read from a value of unknown shape.  The checks run in a fixed order: the value
must be a mapping, its `languages` too, every language must have a pattern, and the options must be
a mapping or be left out.  The first check that fails is the error.  The text of a pattern is not
looked into.
-/
import Sitemap.Settings
import Sitemap.Value.Display
import Sitemap.Value.Shape

namespace Sitemap

structure ContentType where
  /-- The pattern of every language, in order. -/
  languages : Entries String
  options : Entries Value
  deriving DecidableEq

namespace ContentType

/-- Why a value is no content type. -/
inductive Cause where
  | notMapping (typeName : String)
  | languages
  | withoutPattern (language : String)
  | options
  deriving DecidableEq, Repr

def Cause.text : Cause → String
  | .notMapping typeName => s!"expected a mapping, got {typeName}"
  | .languages => "'languages' must be a mapping of language code to pattern"
  | .withoutPattern language => s!"language '{language}' has no pattern"
  | .options => "'options' must be a mapping"

end ContentType

/-- An error in the content type of a name; a value that counts as not given is none. -/
structure ConfigError where
  name : Value
  cause : ContentType.Cause
  deriving DecidableEq

def ConfigError.message (e : ConfigError) : String :=
  let label := if e.name.truthy then s!"content type '{e.name.display}'" else "content type"
  s!"Invalid {label}: {e.cause.text}"

namespace ContentType

/-- The pattern of a language entry: a text with something in it. -/
def patternOf? : Value → Option String
  | .mapping entry =>
    match Entries.get? "pattern" entry with
    | some (.text p) => if p = "" then none else some p
    | _ => none
  | _ => none

def readLanguage (e : String × Value) : Except Cause (String × String) :=
  match patternOf? e.2 with
  | some p => .ok (e.1, p)
  | none => .error (.withoutPattern e.1)

def readOptions (data : Entries Value) : Except Cause (Entries Value) :=
  match Entries.get? "options" data with
  | none => .ok []
  | some (.mapping options) => .ok options
  | some v => if v.truthy then .error .options else .ok []

def read : Value → Except Cause ContentType
  | .mapping data => do
    match Entries.get? "languages" data with
    | some (.mapping entries) =>
      let languages ← entries.mapM readLanguage
      let options ← readOptions data
      return ⟨languages, options⟩
    | _ => .error .languages
  | v => .error (.notMapping v.typeName)

/-- The content type that a value describes under a name. -/
def ofValue (name data : Value) : Except ConfigError ContentType :=
  (read data).mapError fun cause => ⟨name, cause⟩

/-- The content type that a value describes, none for null. -/
def ofValue? (name : Value) : Value → Except ConfigError (Option ContentType)
  | .null => .ok none
  | data => (ofValue name data).map some

def patterns (c : ContentType) : List String := c.languages.map Prod.snd

/-- Whether drafts are left out: the option, or the setting when the option is not there. -/
def excludeDrafts (s : Settings) (c : ContentType) : Value :=
  (Entries.get? "exclude_drafts" c.options).getD s.excludeDrafts

end ContentType
end Sitemap
