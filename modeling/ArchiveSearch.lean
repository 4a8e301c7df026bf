import ArchiveSearch.Book.Basic
import ArchiveSearch.Book.Contents
import ArchiveSearch.Book.Document
import ArchiveSearch.Book.Roots
import ArchiveSearch.Calendar.Date
import ArchiveSearch.Calendar.Timestamp
import ArchiveSearch.Calendar.Zone
import ArchiveSearch.Command.Arguments
import ArchiveSearch.Command.Books
import ArchiveSearch.Command.Check
import ArchiveSearch.Command.Outcome
import ArchiveSearch.Command.Run
import ArchiveSearch.Command.Search
import ArchiveSearch.Configuration.Basic
import ArchiveSearch.Configuration.File
import ArchiveSearch.Configuration.Location
import ArchiveSearch.Dictionary
import ArchiveSearch.Failure
import ArchiveSearch.Item.Metadata
import ArchiveSearch.Item.Record
import ArchiveSearch.Json.Basic
import ArchiveSearch.Json.Fields
import ArchiveSearch.Json.Number
import ArchiveSearch.Json.Written
import ArchiveSearch.Main
import ArchiveSearch.Numeric.Double
import ArchiveSearch.Numeric.Rounding
import ArchiveSearch.Numeric.Shortest
import ArchiveSearch.Proofs.Book.Candidates
import ArchiveSearch.Proofs.Book.Document
import ArchiveSearch.Proofs.Book.Hierarchy
import ArchiveSearch.Proofs.Book.Preorder
import ArchiveSearch.Proofs.Book.Roots
import ArchiveSearch.Proofs.Book.Walk
import ArchiveSearch.Proofs.Calendar.Chronology
import ArchiveSearch.Proofs.Calendar.Day
import ArchiveSearch.Proofs.Calendar.Month
import ArchiveSearch.Proofs.Calendar.Normal
import ArchiveSearch.Proofs.Calendar.Parts
import ArchiveSearch.Proofs.Calendar.Reach
import ArchiveSearch.Proofs.Calendar.Span
import ArchiveSearch.Proofs.Calendar.Timestamp
import ArchiveSearch.Proofs.Calendar.Width
import ArchiveSearch.Proofs.Configuration.File
import ArchiveSearch.Proofs.Configuration.Limits
import ArchiveSearch.Proofs.Dictionary
import ArchiveSearch.Proofs.Item.Lenient
import ArchiveSearch.Proofs.Item.Metadata
import ArchiveSearch.Proofs.Json.Fields
import ArchiveSearch.Proofs.Json.Scalar
import ArchiveSearch.Proofs.Json.Text
import ArchiveSearch.Proofs.Json.Value
import ArchiveSearch.Proofs.Query.Composition
import ArchiveSearch.Proofs.Query.DateRange
import ArchiveSearch.Proofs.Query.Entries
import ArchiveSearch.Proofs.Query.Literal
import ArchiveSearch.Proofs.Query.Positions
import ArchiveSearch.Proofs.Query.RangeOrder
import ArchiveSearch.Proofs.Query.RangeTerm
import ArchiveSearch.Proofs.Query.Reports
import ArchiveSearch.Proofs.Regex.Literal
import ArchiveSearch.Proofs.Search.Answers
import ArchiveSearch.Proofs.Search.Combined
import ArchiveSearch.Proofs.Search.Conjunction
import ArchiveSearch.Proofs.Search.Order
import ArchiveSearch.Proofs.Search.Rearrangement
import ArchiveSearch.Proofs.Search.SingleTerm
import ArchiveSearch.Proofs.Search.Stability
import ArchiveSearch.Proofs.Search.Zone
import ArchiveSearch.Proofs.Storage.Companion
import ArchiveSearch.Proofs.Storage.Listing
import ArchiveSearch.Proofs.Storage.Path
import ArchiveSearch.Proofs.Storage.Saved
import ArchiveSearch.Proofs.Storage.Session
import ArchiveSearch.Proofs.Storage.Texts
import ArchiveSearch.Proofs.Storage.Tree
import ArchiveSearch.Proofs.Storage.Writing
import ArchiveSearch.Proofs.Text.CaseFold
import ArchiveSearch.Proofs.Token.Coverage
import ArchiveSearch.Proofs.Token.Seam
import ArchiveSearch.Proofs.Token.Written
import ArchiveSearch.Proofs.Toml.Document
import ArchiveSearch.Proofs.Toml.Text
import ArchiveSearch.Proofs.Toml.Value
import ArchiveSearch.Query.Basic
import ArchiveSearch.Query.DateRange
import ArchiveSearch.Query.Field
import ArchiveSearch.Query.Pattern
import ArchiveSearch.Query.Reader
import ArchiveSearch.Query.Rule
import ArchiveSearch.Query.Selection
import ArchiveSearch.Query.Token
import ArchiveSearch.Regex.CharSet
import ArchiveSearch.Regex.Expr
import ArchiveSearch.Regex.Meaning
import ArchiveSearch.Regex.Property
import ArchiveSearch.Regex.Size
import ArchiveSearch.Regex.Source
import ArchiveSearch.Regex.Syntax
import ArchiveSearch.Regex.Syntax.Bracket
import ArchiveSearch.Regex.Syntax.Escape
import ArchiveSearch.Regex.Syntax.Reader
import ArchiveSearch.Search.Basic
import ArchiveSearch.Search.Match
import ArchiveSearch.Search.Order
import ArchiveSearch.Storage.Library
import ArchiveSearch.Storage.Load
import ArchiveSearch.Storage.Path
import ArchiveSearch.Storage.SizeText
import ArchiveSearch.Storage.Tree
import ArchiveSearch.Text.Age
import ArchiveSearch.Text.Blank
import ArchiveSearch.Text.CaseFold
import ArchiveSearch.Text.Category
import ArchiveSearch.Text.Property
import ArchiveSearch.Text.Quoted
import ArchiveSearch.Text.Ranges
import ArchiveSearch.Text.Script
import ArchiveSearch.Text.Segmentation
import ArchiveSearch.Text.Word
import ArchiveSearch.Toml.Document
import ArchiveSearch.Toml.Scalar
import ArchiveSearch.Toml.Statement
import ArchiveSearch.Toml.Text
