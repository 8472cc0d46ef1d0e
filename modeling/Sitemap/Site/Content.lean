/-
The newsroom: articles with their categories, authors, tags and other language versions.

Rows are numbered from 1 in the order in which they were written, table by table.  `Content.checked`
reads their columns and refuses a row that points to none.  `Content.article` and its fellows give a
row as the object that a page is built from: its fields, its number as `id` and `pk`, and the rows
that it points to, as objects of their own.  The other language versions of an article are articles
again, so they are followed to a given depth.
-/
import Sitemap.Distinct
import Sitemap.Site.Models

namespace Sitemap
namespace Site

def writtenAt : Value := .literal .dateTime "2024-01-01T00:00:00+00:00"

/-- A row of which only the name is kept. -/
structure Category where
  name : Value
  author : Option Nat := none

structure Article where
  /-- The columns that are given; the others have their usual values. -/
  columns : Entries Value := []
  category : Option Nat := none
  tags : List Nat := []
  localizations : List Nat := []

structure Content where
  authors : List Value := []
  categories : List Category := []
  tags : List Value := []
  plain : List Value := []
  articles : List Article := []

/-- A value that may be missing. -/
def orNull {α : Type} (f : α → Value) : Option α → Value
  | some a => f a
  | none => .null

def number (n : Nat) : Value := .int n

def rowOf {α : Type} (rows : List α) (f : Nat → α → Value) (id : Nat) : Value :=
  match id with
  | 0 => .null
  | n + 1 => orNull (f id) rows[n]?

def allRows {α : Type} (rows : List α) (f : Nat → α → Value) : List Value :=
  rows.mapIdx fun n a => f (n + 1) a

/-- The rows of some numbers, each once and in order. -/
def rowsOf (row : Nat → Value) (ids : List Nat) : Value :=
  .series .related (((distinct ids).mergeSort (· ≤ ·)).map row)

def numbered (id : Nat) (attributes : Entries Value) : Value :=
  .object (("id", number id) :: attributes ++ [("pk", number id)])

def named (id : Nat) (name : Value) : Value := numbered id [("name", name)]

/-- The columns of an article with their usual values, and whether they may be null. -/
def articleColumns : List (String × Value × Bool) :=
  [("slug", .text "", false), ("locale", .text "en", false), ("rank", .null, true),
    ("day", .null, true), ("guid", .null, true), ("sitemap_exclude", .null, true),
    ("published_at", .null, true)]

def admitColumn (name : String) (nullable : Bool) (v : Value) : Except ColumnFault Value := do
  let stored ← readColumn name v
  if !ColumnType.fits stored then .error .tooLarge
  else if stored = .null ∧ !nullable then .error .refused
  else return stored

namespace Article

def column (a : Article) (name : String) : Value := (Entries.get? name a.columns).getD .null

def checked (a : Article) : Except ColumnFault Article := do
  let columns ← articleColumns.mapM fun (name, usual, nullable) => do
    let v ← admitColumn name nullable ((Entries.get? name a.columns).getD usual)
    return (name, v)
  return { a with columns := columns }

end Article

namespace Content

def isRow {α : Type} (rows : List α) (id : Nat) : Bool := 0 < id && id ≤ rows.length

/-- Whether every row that is pointed to is there. -/
def closed (c : Content) : Bool :=
  c.categories.all (fun row => row.author.all (isRow c.authors))
    && c.articles.all fun a => a.category.all (isRow c.categories) && a.tags.all (isRow c.tags)
      && a.localizations.all (isRow c.articles)

/-- The content with all columns read, if it can be stored. -/
def checked (c : Content) : Except ColumnFault Content := do
  let name := admitColumn "name" false
  let authors ← c.authors.mapM name
  let categories ← c.categories.mapM fun row => do
    let v ← name row.name
    return { row with name := v }
  let tags ← c.tags.mapM name
  let plain ← c.plain.mapM name
  let articles ← c.articles.mapM Article.checked
  if c.closed then return ⟨authors, categories, tags, plain, articles⟩ else .error .refused

def author (c : Content) (id : Nat) : Value := rowOf c.authors named id

def tag (c : Content) (id : Nat) : Value := rowOf c.tags named id

def categoryObject (c : Content) (id : Nat) (row : Category) : Value :=
  numbered id [("name", row.name), ("author", (row.author.map c.author).getD .null),
    ("author_id", orNull number row.author)]

def category (c : Content) (id : Nat) : Value := rowOf c.categories c.categoryObject id

/-- An article, with the articles that `others` gives for its language versions. -/
def articleObject (c : Content) (others : Nat → Value) (id : Nat) (row : Article) : Value :=
  numbered id (row.columns ++ [("updated_at", writtenAt),
    ("category", (row.category.map c.category).getD .null),
    ("category_id", orNull number row.category), ("tags", rowsOf c.tag row.tags),
    ("localizations", rowsOf others row.localizations)])

/-- An article, with its language versions followed to a depth. -/
def article (c : Content) : Nat → Nat → Value
  | 0, id => rowOf c.articles (c.articleObject fun _ => .null) id
  | depth + 1, id => rowOf c.articles (c.articleObject (c.article depth)) id

/-- The depth to which pages look: a page, its language versions, and theirs. -/
def pageDepth : Nat := 2

/-- The rows of a model, with language versions followed to a depth. -/
def rows (c : Content) (depth : Nat) (model : String) : List Value :=
  if model = authorModel.name then allRows c.authors named
  else if model = tagModel.name then allRows c.tags named
  else if model = plainModel.name then allRows c.plain named
  else if model = categoryModel.name then allRows c.categories c.categoryObject
  else if model = articleModel.name then
    allRows c.articles (c.articleObject (c.article (depth - 1)))
  else []

end Content
end Site
end Sitemap
