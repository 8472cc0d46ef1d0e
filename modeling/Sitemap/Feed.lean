/-
The pages of one content type: a model with the content type and the traits that go with it.

A feed has a name, and a source of pages if there is a model of that name.  Its content type is the
one set, or else the one that the settings have under its name, which the feed then keeps.  Its
traits are the ones set, or else those of the model.
-/
import Sitemap.ContentType.Catalogue
import Sitemap.Fetch
import Sitemap.PageQuery

namespace Sitemap

structure Feed where
  name : String
  source : Option PageSource
  contentType : Option ContentType := none
  traits : Option Traits.Source := none

namespace Feed

def ofSource (source : PageSource) : Feed where
  name := Text.lower source.model.name
  source := some source

/-- The feed of a name, with the first source whose model has that name when case does not count. -/
def ofName (sources : List PageSource) (name : String) : Feed where
  name := Text.lower name
  source := sources.find? fun source => source.model.isNamed name

/-- The content type, looked up and kept if none is set. -/
def getContentType (s : Settings) (f : Feed) : Except Failure (Option ContentType) × Feed :=
  match f.contentType with
  | some c => (.ok (some c), f)
  | none =>
    match ContentType.find? s .null f.name with
    | .ok c => (.ok c, { f with contentType := c })
    | .error e => (.error e, f)

/-- The traits: those set, those of the model, or the defaults. -/
def getTraits (s : Settings) (f : Feed) : Except Failure Traits :=
  match f.traits, f.source with
  | some t, _ => t.traits.mapError .shape
  | none, some source => (source.model.traits s).mapError .shape
  | none, none => .ok {}

def build (s : Settings) (f : Feed) (pageId : Value) : Except Failure PageQuery × Feed :=
  match f.getContentType s with
  | (.error e, f) => (.error e, f)
  | (.ok c, f) =>
    (do let t ← f.getTraits s
        PageQuery.build s c t pageId, f)

/-- The outcome of a fetch that fails before it asks for anything. -/
def failed (e : Failure) : Option (Run (List (Entries Value))) := some (Run.lift (.error e))

def fetch (s : Settings) (f : Feed) (pageId pageSize : Value) :
    Option (Run (List (Entries Value))) × Feed :=
  match f.source with
  | none => (failed (.unknownModel f.name), f)
  | some source =>
    match f.build s pageId with
    | (.error e, f) => (failed e, f)
    | (.ok q, f) => (Fetch.fetch s source (.ofQuery q) pageSize, f)

/-- What a feed is made for: a source of pages, or the model of a name. -/
inductive Subject where
  | source (source : PageSource)
  | name (name : String)

/-- The feed of a subject, where names are looked for among `sources`. -/
def ofSubject (sources : List PageSource) : Subject → Feed
  | .source source => ofSource source
  | .name name => ofName sources name

/-- The pages of a subject, fetched by a feed of its own in batches of the usual size. -/
def getPages (s : Settings) (sources : List PageSource) (subject : Subject) (pageId : Value)
    (c : Option ContentType) (t : Option Traits.Source) : Option (Run (List (Entries Value))) :=
  ({ ofSubject sources subject with contentType := c, traits := t }.fetch s pageId .null).1

/-- What can be asked of a feed, one thing after the other. -/
inductive Step where
  | info
  | setContentType (c : Option ContentType)
  | setTraits (t : Option Traits.Source)
  | getContentType
  | getTraits
  | build (pageId : Value)
  | fetch (pageId pageSize : Value)
  /-- A fetch by a feed of its own, with the same model, content type and traits. -/
  | getPages (pageId : Value)

inductive Answer where
  | info (name : String) (model : Option String)
  | done
  | contentType (c : Except Failure (Option ContentType))
  | traits (t : Except Failure Traits)
  | query (q : Except Failure PageQuery)
  | pages (run : Option (Run (List (Entries Value))))

def step (s : Settings) (f : Feed) : Step → Answer × Feed
  | .info => (.info f.name (f.source.map fun source => source.model.name), f)
  | .setContentType c => (.done, { f with contentType := c })
  | .setTraits t => (.done, { f with traits := t })
  | .getContentType => ((f.getContentType s).map .contentType id)
  | .getTraits => (.traits (f.getTraits s), f)
  | .build pageId => ((f.build s pageId).map .query id)
  | .fetch pageId pageSize => ((f.fetch s pageId pageSize).map .pages id)
  | .getPages pageId => (.pages (f.fetch s pageId .null).1, f)

/-- The answers to some steps. -/
def run (s : Settings) (f : Feed) : List Step → List Answer
  | [] => []
  | p :: steps => (f.step s p).1 :: run s (f.step s p).2 steps

end Feed
end Sitemap
