/-
What a feed answers does not depend on what it was asked before.

A feed keeps the content type that it finds in the settings, so that a question changes it.  Two feeds
are `Alike` when nothing that can be asked tells them apart: they have the same model and the same
traits set, and find the same content type, whether it is set, was found before or has to be looked up.
Feeds that are alike answer a step in the same way and stay alike (`Alike.step`), and a step that sets
nothing leaves a feed alike to what it was (`alike_step`).

So the answers are those of a feed that was told what was set last, and nothing else; steps that set
nothing can be left out without a change to the other answers; and a fetch gives what a feed of its own
would: `transparent_of_subject`.
-/
import Sitemap.Feed

namespace Sitemap
namespace Feed

variable {s : Settings} {f g h : Feed} {p : Step}

/-! ## Feeds that are alike -/

/-- Feeds of one model, with the same traits, that find the same content type. -/
structure Alike (s : Settings) (f g : Feed) : Prop where
  name : f.name = g.name
  source : f.source = g.source
  traits : f.traits = g.traits
  contentType : (f.getContentType s).1 = (g.getContentType s).1

namespace Alike

theorem refl (f : Feed) : Alike s f f := ⟨rfl, rfl, rfl, rfl⟩

theorem symm (a : Alike s f g) : Alike s g f :=
  ⟨a.name.symm, a.source.symm, a.traits.symm, a.contentType.symm⟩

theorem trans (a : Alike s f g) (b : Alike s g h) : Alike s f h :=
  ⟨a.name.trans b.name, a.source.trans b.source, a.traits.trans b.traits,
    a.contentType.trans b.contentType⟩

end Alike

theorem getContentType_of_some {c : ContentType} (set : f.contentType = some c) :
    f.getContentType s = (.ok (some c), f) := by
  unfold getContentType
  rw [set]

theorem getContentType_of_none (unset : f.contentType = none) :
    f.getContentType s = (ContentType.find? s .null f.name,
      match ContentType.find? s .null f.name with
      | .ok c => { f with contentType := c }
      | .error _ => f) := by
  unfold getContentType
  rw [unset]
  cases ContentType.find? s .null f.name <;> rfl

theorem getContentType_setTraits (s : Settings) (f : Feed) (t : Option Traits.Source) :
    (getContentType s { f with traits := t }).1 = (f.getContentType s).1 := by
  obtain ⟨name, source, c, _⟩ := f
  cases c with
  | some c => rfl
  | none => rw [getContentType_of_none rfl, getContentType_of_none rfl]

/-- The content type that was found is found again. -/
theorem alike_getContentType (s : Settings) (f : Feed) : Alike s (f.getContentType s).2 f := by
  cases set : f.contentType with
  | some c =>
    rw [getContentType_of_some set]
    exact .refl f
  | none =>
    rw [getContentType_of_none set]
    cases found : ContentType.find? s .null f.name with
    | error e => exact .refl f
    | ok c =>
      refine ⟨rfl, rfl, rfl, ?_⟩
      rw [getContentType_of_none set, found]
      cases c with
      | some c => rfl
      | none =>
        show (getContentType s { f with contentType := none }).1 = _
        rw [getContentType_of_none rfl]
        exact found

theorem getTraits_getContentType (s : Settings) (f : Feed) :
    (f.getContentType s).2.getTraits s = f.getTraits s := by
  have a := alike_getContentType s f
  unfold getTraits
  rw [a.traits, a.source]

/-! ## Answers -/

/-- The query of a feed, whatever becomes of the feed. -/
def query (s : Settings) (f : Feed) (pageId : Value) : Except Failure PageQuery := do
  let c ← (f.getContentType s).1
  let t ← f.getTraits s
  PageQuery.build s c t pageId

theorem build_eq (s : Settings) (f : Feed) (pageId : Value) :
    f.build s pageId = (f.query s pageId, (f.getContentType s).2) := by
  have traits := getTraits_getContentType s f
  unfold build query
  cases found : f.getContentType s with
  | mk result after =>
    rw [found] at traits
    cases result with
    | error e => rfl
    | ok c =>
      show (after.getTraits s >>= _, after) = _
      rw [traits]
      rfl

/-- What a fetch from a source gives, once there is a query or a reason why there is none. -/
def fetched (s : Settings) (source : PageSource) (pageSize : Value) :
    Except Failure PageQuery → Option (Run (List (Entries Value)))
  | .error e => failed e
  | .ok q => Fetch.fetch s source (.ofQuery q) pageSize

theorem fetch_of_none (no : f.source = none) (pageId pageSize : Value) :
    f.fetch s pageId pageSize = (failed (.unknownModel f.name), f) := by
  unfold fetch
  rw [no]

theorem fetch_of_some {source : PageSource} (there : f.source = some source)
    (pageId pageSize : Value) :
    f.fetch s pageId pageSize
      = (fetched s source pageSize (f.query s pageId), (f.getContentType s).2) := by
  unfold fetch
  rw [there, build_eq]
  cases f.query s pageId <;> rfl

namespace Alike

theorem getTraits (a : Alike s f g) : f.getTraits s = g.getTraits s := by
  unfold Feed.getTraits
  rw [a.traits, a.source]

theorem query (a : Alike s f g) (pageId : Value) : f.query s pageId = g.query s pageId := by
  unfold Feed.query
  rw [a.contentType, a.getTraits]

theorem fetch (a : Alike s f g) (pageId pageSize : Value) :
    (f.fetch s pageId pageSize).1 = (g.fetch s pageId pageSize).1 := by
  cases there : f.source with
  | none => rw [fetch_of_none there, fetch_of_none (a.source ▸ there), a.name]
  | some source => rw [fetch_of_some there, fetch_of_some (a.source ▸ there), a.query]

end Alike

/-! ## Steps -/

/-- Whether a step sets something. -/
def Step.sets : Step → Bool
  | .setContentType _ | .setTraits _ => true
  | _ => false

/-- A feed that is told what a step sets, and asked nothing. -/
def set (f : Feed) : Step → Feed
  | .setContentType c => { f with contentType := c }
  | .setTraits t => { f with traits := t }
  | _ => f

theorem set_of_not_sets (asks : p.sets = false) : f.set p = f := by
  cases p <;> first | rfl | cases asks

theorem alike_fetch (s : Settings) (f : Feed) (pageId pageSize : Value) :
    Alike s (f.fetch s pageId pageSize).2 f := by
  cases there : f.source with
  | none =>
    rw [fetch_of_none there]
    exact .refl f
  | some source =>
    rw [fetch_of_some there]
    exact alike_getContentType s f

/-- A step leaves a feed alike to one that was only told what the step sets. -/
theorem alike_step (s : Settings) (f : Feed) (p : Step) : Alike s (f.step s p).2 (f.set p) := by
  cases p with
  | info | setContentType _ | setTraits _ | getTraits | getPages _ => exact .refl _
  | getContentType => exact alike_getContentType s f
  | build pageId =>
    show Alike s (f.build s pageId).2 f
    rw [build_eq]
    exact alike_getContentType s f
  | fetch pageId pageSize => exact alike_fetch s f pageId pageSize

namespace Alike

/-- What is set takes the place of what was set or found. -/
theorem set (a : Alike s f g) (p : Step) : Alike s (f.set p) (g.set p) := by
  cases p with
  | setContentType c =>
    refine ⟨a.name, a.source, a.traits, ?_⟩
    cases c with
    | some c => rfl
    | none =>
      show (Feed.getContentType s { f with contentType := none }).1
        = (Feed.getContentType s { g with contentType := none }).1
      rw [getContentType_of_none rfl, getContentType_of_none rfl]
      exact congrArg (ContentType.find? s .null) a.name
  | setTraits t =>
    refine ⟨a.name, a.source, rfl, ?_⟩
    show (Feed.getContentType s { f with traits := t }).1
      = (Feed.getContentType s { g with traits := t }).1
    rw [getContentType_setTraits s f, getContentType_setTraits s g]
    exact a.contentType
  | info | getContentType | getTraits | build _ | fetch _ _ | getPages _ => exact a

/-- Feeds that are alike answer a step in the same way, and stay alike. -/
theorem step (a : Alike s f g) (p : Step) :
    (f.step s p).1 = (g.step s p).1 ∧ Alike s (f.step s p).2 (g.step s p).2 := by
  constructor
  · cases p with
    | info =>
      show Answer.info f.name _ = Answer.info g.name _
      rw [a.name, a.source]
    | setContentType _ | setTraits _ => rfl
    | getContentType => exact congrArg Answer.contentType a.contentType
    | getTraits => exact congrArg Answer.traits a.getTraits
    | build pageId =>
      show Answer.query (f.build s pageId).1 = Answer.query (g.build s pageId).1
      rw [build_eq, build_eq, a.query]
    | fetch pageId pageSize => exact congrArg Answer.pages (a.fetch pageId pageSize)
    | getPages pageId => exact congrArg Answer.pages (a.fetch pageId .null)
  · exact (alike_step s f p).trans ((a.set p).trans (alike_step s g p).symm)

end Alike

/-! ## Scripts -/

/-- A feed after some steps. -/
def after (s : Settings) (f : Feed) (steps : List Step) : Feed :=
  steps.foldl (fun f p => (f.step s p).2) f

/-- The content type that is set last, or the one that is there from the start. -/
def lastContentType (c : Option ContentType) : List Step → Option ContentType
  | [] => c
  | .setContentType c :: steps => lastContentType c steps
  | _ :: steps => lastContentType c steps

/-- The traits that are set last, or those that are there from the start. -/
def lastTraits (t : Option Traits.Source) : List Step → Option Traits.Source
  | [] => t
  | .setTraits t :: steps => lastTraits t steps
  | _ :: steps => lastTraits t steps

/-- A feed with what some steps set last, which was asked nothing. -/
def told (f : Feed) (steps : List Step) : Feed :=
  { f with
    contentType := lastContentType f.contentType steps
    traits := lastTraits f.traits steps }

theorem told_cons (f : Feed) (p : Step) (steps : List Step) :
    f.told (p :: steps) = (f.set p).told steps := by
  cases p <;> rfl

theorem Alike.told (a : Alike s f g) (steps : List Step) : Alike s (f.told steps) (g.told steps) := by
  induction steps generalizing f g with
  | nil => exact a
  | cons p steps ih =>
    rw [told_cons, told_cons]
    exact ih (a.set p)

/-- Whatever a feed was asked, it is alike to one that was told what was set last. -/
theorem alike_after (s : Settings) (f : Feed) (steps : List Step) :
    Alike s (f.after s steps) (f.told steps) := by
  induction steps generalizing f with
  | nil => exact .refl f
  | cons p steps ih =>
    rw [told_cons]
    exact (ih (f.step s p).2).trans ((alike_step s f p).told steps)

theorem run_getElem? (s : Settings) (f : Feed) (before later : List Step) (p : Step) :
    (f.run s (before ++ p :: later))[before.length]? = some ((f.after s before).step s p).1 := by
  induction before generalizing f with
  | nil => rfl
  | cons q before ih => exact ih (f.step s q).2

/-- What is marked, of a list in which each item is marked or not. -/
def marked {α : Type} (items : List (α × Bool)) : List α :=
  items.filterMap fun e => if e.2 then some e.1 else none

/-- Steps that set nothing can be left out. -/
theorem Alike.run_marked (a : Alike s f g) {script : List (Step × Bool)}
    (keeps : ∀ e ∈ script, e.1.sets = true → e.2 = true) :
    g.run s (marked script) = marked ((f.run s (script.map Prod.fst)).zip (script.map Prod.snd)) := by
  induction script generalizing f g with
  | nil => rfl
  | cons e script ih =>
    obtain ⟨p, mark⟩ := e
    obtain ⟨here, rest⟩ := List.forall_mem_cons.mp keeps
    cases mark with
    | true =>
      obtain ⟨answer, alike⟩ := a.step p
      show (g.step s p).1 :: (g.step s p).2.run s (marked script) = (f.step s p).1 :: marked _
      rw [answer, ih alike rest]
      rfl
    | false =>
      have asks : p.sets = false := Bool.eq_false_iff.mpr fun sets => nomatch here sets
      have still : Alike s (f.step s p).2 g := by
        have a' := alike_step s f p
        rw [set_of_not_sets asks] at a'
        exact a'.trans a
      exact ih still rest

/-! ## The main statement -/

/-- What the answers of a feed, made for a subject, depend on. -/
structure Transparent (s : Settings) (sources : List PageSource) (subject : Subject) (f : Feed) :
    Prop where
  /-- An answer is that of a feed that was told what was set last before, and asked nothing. -/
  answers : ∀ before p later, (f.run s (before ++ p :: later))[before.length]?
    = some ((f.told before).step s p).1
  /-- Without some steps that set nothing, the answers to the others are the same. -/
  deletion : ∀ script : List (Step × Bool), (∀ e ∈ script, e.1.sets = true → e.2 = true) →
    f.run s (marked script) = marked ((f.run s (script.map Prod.fst)).zip (script.map Prod.snd))
  /-- At any time a fetch gives what a feed of its own would, with the content type and the traits
  that are there. -/
  fetches : ∀ steps pageId p, (p = .fetch pageId .null ∨ p = .getPages pageId) →
    ((f.after s steps).step s p).1 = .pages (getPages s sources subject pageId
      (f.after s steps).contentType (f.after s steps).traits)
  /-- A name that is known stands for the source that is found for it. -/
  known : ∀ source, f.source = some source →
    ofSubject sources (.source source) = ofSubject sources subject

/-- A feed of its own, with the name and the source of a feed, fetches what that feed does. -/
theorem getPages_of_same {sources : List PageSource} {subject : Subject}
    (name : f.name = (ofSubject sources subject).name)
    (source : f.source = (ofSubject sources subject).source) (pageId : Value) :
    getPages s sources subject pageId f.contentType f.traits = (f.fetch s pageId .null).1 := by
  obtain ⟨_, _, c, t⟩ := f
  cases name
  cases source
  rfl

theorem ofSubject_of_source {sources : List PageSource} {subject : Subject} {source : PageSource}
    (there : (ofSubject sources subject).source = some source) :
    ofSubject sources (.source source) = ofSubject sources subject := by
  cases subject with
  | source source' =>
    cases there
    rfl
  | name name =>
    have there : sources.find? (fun source => source.model.isNamed name) = some source := there
    have found := List.find?_some there
    have named : Text.lower source.model.name = Text.lower name := eq_of_beq found
    show ofSource source = ofName sources name
    unfold ofSource ofName
    rw [there, named]

/-- The content type that a feed keeps shows in none of its answers. -/
theorem transparent_of_subject (s : Settings) (sources : List PageSource) (subject : Subject)
    (c : Option ContentType) (t : Option Traits.Source) :
    Transparent s sources subject { ofSubject sources subject with contentType := c, traits := t } where
  answers before p later := by
    rw [run_getElem?, ((alike_after s _ before).step p).1]
  deletion script keeps := (Alike.refl _).run_marked keeps
  fetches steps pageId p fetches := by
    have same := alike_after s { ofSubject sources subject with contentType := c, traits := t } steps
    have own := getPages_of_same (s := s) same.name same.source pageId
    rw [own]
    rcases fetches with rfl | rfl <;> rfl
  known _ there := ofSubject_of_source there

end Feed
end Sitemap
