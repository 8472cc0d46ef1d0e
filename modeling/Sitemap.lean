import Sitemap.Calendar
import Sitemap.Calendar.Reading
import Sitemap.Column
import Sitemap.Column.Document
import Sitemap.Column.Parse
import Sitemap.Column.Part
import Sitemap.ContentType
import Sitemap.ContentType.Catalogue
import Sitemap.ContentType.Reads
import Sitemap.ContentType.Traits
import Sitemap.Distinct
import Sitemap.Entries
import Sitemap.Failure
import Sitemap.Feed
import Sitemap.Fetch
import Sitemap.Filter.Compile
import Sitemap.Filter.Condition
import Sitemap.Filter.Key
import Sitemap.Filter.Visibility
import Sitemap.Notice
import Sitemap.PageQuery
import Sitemap.Pattern.Address
import Sitemap.Pattern.Error
import Sitemap.Pattern.Reads
import Sitemap.Pattern.Review
import Sitemap.Pattern.Scan
import Sitemap.Pattern.Slashes
import Sitemap.Pattern.Token
import Sitemap.Pattern.Written
import Sitemap.Proofs.Store.Turn
import Sitemap.Record.AttributeName
import Sitemap.Record.Attributes
import Sitemap.Record.Build
import Sitemap.Record.Lookup
import Sitemap.Schema
import Sitemap.Settings
import Sitemap.Settings.Reader
import Sitemap.Site.Admission
import Sitemap.Site.Content
import Sitemap.Site.Database
import Sitemap.Site.Lookup
import Sitemap.Site.Lookup.Document
import Sitemap.Site.Lookup.Order
import Sitemap.Site.Lookup.Text
import Sitemap.Site.Models
import Sitemap.Site.Select
import Sitemap.Site.Test
import Sitemap.Store.Failing
import Sitemap.Store.Locks
import Sitemap.Store.Machine
import Sitemap.Store.Operation
import Sitemap.Store.Perform
import Sitemap.Store.Table
import Sitemap.Store.Task
import Sitemap.Text.Alphanumeric
import Sitemap.Text.Casing
import Sitemap.Text.Lowercase
import Sitemap.Text.Numeral
import Sitemap.Text.Printable
import Sitemap.Text.Ranges
import Sitemap.Text.Regex
import Sitemap.Text.Regex.Parse
import Sitemap.Text.Split
import Sitemap.Text.Variants
import Sitemap.Value
import Sitemap.Value.Decimal
import Sitemap.Value.Display
import Sitemap.Value.Equality
import Sitemap.Value.Float
import Sitemap.Value.Members
import Sitemap.Value.Number
import Sitemap.Value.Order
import Sitemap.Value.Shape
import Sitemap.Proofs.Store.LockTable
import Sitemap.Proofs.Store.Locking
import Sitemap.Proofs.Store.Rows
import Sitemap.Proofs.Store.Replacement
import Sitemap.Proofs.Store.Settling
import Sitemap.Proofs.Store.Commit
import Sitemap.Proofs.Store.Replay
import Sitemap.Proofs.Store.Serial
import Sitemap.Proofs.Page.Query
import Sitemap.Proofs.Page.Reading
import Sitemap.Proofs.Page.Record
import Sitemap.Proofs.Pattern.Layout
import Sitemap.Proofs.Page.Rendering
import Sitemap.Proofs.Page.Plain
import Sitemap.Proofs.Page.Localizations
import Sitemap.Proofs.Pattern.Grammar
import Sitemap.Proofs.ContentType.Aggregation
import Sitemap.Proofs.Filter.Joining
import Sitemap.Proofs.Filter.Meaning
import Sitemap.Proofs.Filter.Visible
import Sitemap.Proofs.Page.Reviewed
import Sitemap.Proofs.Fetch.Batches
import Sitemap.Proofs.Store.Deletion
import Sitemap.Proofs.Store.Maps
import Sitemap.Proofs.Settings.Snapshot
import Sitemap.Proofs.Pattern.Matches
import Sitemap.Proofs.Pattern.Sufficiency
import Sitemap.Proofs.Pattern.Blame
import Sitemap.Proofs.Filter.Alternation
import Sitemap.Proofs.Page.Refusal
import Sitemap.Proofs.Store.Account
import Sitemap.Proofs.Store.Refusals
import Sitemap.Proofs.Store.Containment
import Sitemap.Proofs.Pattern.Verdicts
import Sitemap.Proofs.Pattern.Canonical
import Sitemap.Proofs.Feed.Transparency
import Sitemap.Proofs.ContentType.Loading
import Sitemap.Proofs.Record.Writing
import Sitemap.Proofs.Record.Naming
import Sitemap.Proofs.Record.Shape
import Sitemap.Proofs.Record.Paths
