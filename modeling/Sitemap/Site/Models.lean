/-
The models of a site: stored sitemap documents, sitemap caches, and a small newsroom whose articles
pages are made of.
-/
import Sitemap.Column
import Sitemap.Schema
import Sitemap.Value.Display
import Sitemap.Value.Shape

namespace Sitemap
namespace Site

/-- A stored field under its own name. -/
def plainField (name : String) : Field := { name := name, column := .text name }

def pointer (name target : String) : Field :=
  { name := name, column := .text (name ++ "_id"), related := some target }

/-- A field that holds rows of a model. -/
def collection (name target : String) : Field :=
  { name := name, column := .text name, related := some target }

def sitemapModel : Model where
  name := "Sitemap"
  fields := ["id", "name", "delta", "sitemap_string", "created_at", "updated_at"].map plainField

def cacheModel : Model where
  name := "SitemapCache"
  fields := ["id", "name", "sitemap_json", "created_at", "updated_at"].map plainField

/-- A model whose rows only have a name. -/
def namedModel (name : String) : Model where
  name := name
  fields := ["id", "name"].map plainField

def authorModel : Model := namedModel "DemoAuthor"
def tagModel : Model := namedModel "DemoTag"
def plainModel : Model := namedModel "DemoPlain"

def categoryModel : Model where
  name := "DemoCategory"
  fields := ["id", "name"].map plainField ++ [pointer "author" "DemoAuthor"]

def articleModel : Model where
  name := "DemoArticle"
  fields :=
    ["id", "slug", "locale", "rank", "day", "guid"].map plainField
      ++ [pointer "category" "DemoCategory"]
      ++ ["sitemap_exclude", "published_at", "updated_at"].map plainField
      ++ [collection "tags" "DemoTag", collection "localizations" "DemoArticle"]

def models : Schema :=
  [sitemapModel, cacheModel, authorModel, tagModel, plainModel, categoryModel, articleModel]

/-- The model of a name when case does not count. -/
def findModel? (name : String) : Option Model := List.find? (fun m => m.isNamed name) models

def modelNamed (name : Value) : Except ShapeFault (Option Model) :=
  (name.textBy "lower").map findModel?

/-- The types of the columns; columns of one name have one type in all models. -/
def columnTypes : List (String × ColumnType) :=
  [("id", .integer), ("name", .text), ("delta", .integer), ("sitemap_string", .text),
    ("sitemap_json", .document), ("created_at", .dateTime), ("updated_at", .dateTime),
    ("slug", .text), ("locale", .text), ("rank", .integer), ("day", .date), ("guid", .identifier),
    ("sitemap_exclude", .boolean), ("published_at", .dateTime)]

def columnType? (name : String) : Option ColumnType :=
  (columnTypes.find? fun c => c.1 == name).map Prod.snd

def readColumn (name : String) (v : Value) : Except ColumnFault Value :=
  match columnType? name with
  | some type => type.read v
  | none => .error .unknownColumn

def documentTitle (name delta : Value) : String := s!"{name.display} ({delta.display})"

/-- The title of a cache, whose name has to be a text. -/
def cacheTitle (name : Value) : Except ShapeFault String :=
  match name with
  | .text s => .ok s
  | _ => .error .wrongArgument

end Site
end Sitemap
