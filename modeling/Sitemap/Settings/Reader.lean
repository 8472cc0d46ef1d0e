/-
Reading settings one at a time, with a memory.

A reader looks at the user's settings when the first known name is asked for, keeps them as they
were then, and keeps every value it has handed out.  Both memories last until a reload.  A name
without a default is refused before the user's settings are looked at.

Some names are the reader's own, whatever the defaults are.  Under three of them it answers with its
defaults, with the user's settings as a whole, and with the snapshot it keeps of them.  The others
are members that are no settings: its record of what it has handed out, the reload, and what every
object has.
-/
import Sitemap.Settings

namespace Sitemap
namespace Settings

structure Reader where
  defaults : Entries Value
  /-- The user's settings as they are now. -/
  user : Entries Value
  /-- The user's settings as they were first looked at. -/
  snapshot : Option (Entries Value) := none
  /-- The values handed out. -/
  cached : Entries Value := []

/-- Why a reader has no setting to answer with. -/
inductive Refusal where
  /-- The name is no setting. -/
  | unknown (name : String)
  /-- The name is that of a member, and the member is what is answered with. -/
  | member (name : String)
  /-- There is a default for the snapshot, so that looking for the snapshot never ends. -/
  | endless
  deriving DecidableEq, Repr

def Refusal.message : Refusal → String
  | .unknown name => s!"Invalid django-sitemap-query setting: '{name}'"
  | .member name => s!"'{name}' is a member of the settings object"
  | .endless => "The search for the user's settings does not end"

inductive Step where
  | get (name : String)
  | set (user : Entries Value)
  | unset
  | reload

namespace Reader

/-- The names of what every object has. -/
def objectNames : List String :=
  ["__class__", "__delattr__", "__dict__", "__dir__", "__doc__", "__eq__", "__format__", "__ge__",
    "__getattribute__", "__getstate__", "__gt__", "__hash__", "__init__", "__init_subclass__",
    "__le__", "__lt__", "__module__", "__ne__", "__new__", "__reduce__", "__reduce_ex__",
    "__repr__", "__setattr__", "__sizeof__", "__str__", "__subclasshook__", "__weakref__"]

/-- The names of the members of a reader that are no settings. -/
def memberNames : List String := ["_cached_attrs", "reload", "__getattr__"] ++ objectNames

/-- A reader for these defaults, or for the usual ones when there are none. -/
def start (defaults user : Entries Value) : Reader where
  defaults := if defaults = [] then Settings.defaults else defaults
  user := user

/-- The user's settings as a whole: the snapshot, which is taken now if there is none. -/
def whole (r : Reader) : Except Refusal (Entries Value) × Reader :=
  if (Entries.get? "_user_settings" r.defaults).isSome then (.error .endless, r)
  else
    let snapshot := r.snapshot.getD r.user
    (.ok snapshot, { r with snapshot := some snapshot })

/-- The value of a setting that is not among those handed out before. -/
def look (r : Reader) (name : String) : Except Refusal Value × Reader :=
  match Entries.get? name r.defaults with
  | none => (.error (.unknown name), r)
  | some default =>
    match r.whole with
    | (.error fault, r) => (.error fault, r)
    | (.ok snapshot, r) =>
      let v := (Entries.get? name snapshot).getD default
      (.ok v, { r with cached := Entries.put name v r.cached })

def setting (r : Reader) (name : String) : Except Refusal Value × Reader :=
  match Entries.get? name r.cached with
  | some v => (.ok v, r)
  | none => r.look name

/-- The value under a name, which is a setting unless the name is one of the reader's own. -/
def get (r : Reader) (name : String) : Except Refusal Value × Reader :=
  if name ∈ memberNames then (.error (.member name), r)
  else match name, r.snapshot with
  | "defaults", _ => (.ok (.mapping r.defaults), r)
  | "user_settings", _ => (r.whole.1.map .mapping, r.whole.2)
  | "_user_settings", some snapshot => (.ok (.mapping snapshot), r)
  | name, _ => r.setting name

/-- Forget what was looked at and handed out. -/
def reload (r : Reader) : Except Refusal Value × Reader :=
  if (Entries.get? "_user_settings" r.defaults).isSome then (.error .endless, { r with cached := [] })
  else (.ok .null, { r with snapshot := none, cached := [] })

/-- One step; those that change the user's settings or reload answer null. -/
def step (r : Reader) : Step → Except Refusal Value × Reader
  | .get name => r.get name
  | .set user => (.ok .null, { r with user := user })
  | .unset => (.ok .null, { r with user := [] })
  | .reload => r.reload

def run (r : Reader) : List Step → List (Except Refusal Value)
  | [] => []
  | s :: steps => (r.step s).1 :: run (r.step s).2 steps

end Reader
end Settings
end Sitemap
