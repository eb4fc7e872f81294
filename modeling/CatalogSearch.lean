import CatalogSearch.Calendar.Date
import CatalogSearch.Calendar.Reading
import CatalogSearch.CommandLine.Basic
import CatalogSearch.CommandLine.Grammar
import CatalogSearch.CommandLine.Invocation
import CatalogSearch.Config.Basic
import CatalogSearch.Config.Layers
import CatalogSearch.Engagement.Basic
import CatalogSearch.Engagement.Tally
import CatalogSearch.Engagement.Votes
import CatalogSearch.Failure
import CatalogSearch.Federation
import CatalogSearch.Filter.Clause
import CatalogSearch.Filter.Encode
import CatalogSearch.Filter.Field
import CatalogSearch.Filter.Terms
import CatalogSearch.FilterCatalog
import CatalogSearch.Gateway.Basic
import CatalogSearch.Gateway.Endpoint
import CatalogSearch.Gateway.Run
import CatalogSearch.Gateway.Subjects
import CatalogSearch.Http.Network
import CatalogSearch.Http.Redirect
import CatalogSearch.Http.Status
import CatalogSearch.Http.Wire
import CatalogSearch.Json.Codec
import CatalogSearch.Json.Reader
import CatalogSearch.Json.Token
import CatalogSearch.Json.Value
import CatalogSearch.Json.Writer
import CatalogSearch.Main
import CatalogSearch.Merge.Basic
import CatalogSearch.Merge.Order
import CatalogSearch.Number.Binary
import CatalogSearch.Number.Numeral
import CatalogSearch.Number.Shortest
import CatalogSearch.Number.Single
import CatalogSearch.Page
import CatalogSearch.Proofs.Attempt
import CatalogSearch.Proofs.Calendar.Lead
import CatalogSearch.Proofs.Calendar.Spelling
import CatalogSearch.Proofs.Config.Accepted
import CatalogSearch.Proofs.Config.Faults
import CatalogSearch.Proofs.Config.Layered
import CatalogSearch.Proofs.Engagement.Average
import CatalogSearch.Proofs.Engagement.History
import CatalogSearch.Proofs.Federation.Ages
import CatalogSearch.Proofs.Federation.AtBase
import CatalogSearch.Proofs.Federation.Details
import CatalogSearch.Proofs.Federation.Dispatch
import CatalogSearch.Proofs.Federation.Engaged
import CatalogSearch.Proofs.Federation.Filters
import CatalogSearch.Proofs.Federation.Grouping
import CatalogSearch.Proofs.Federation.Honest
import CatalogSearch.Proofs.Federation.Isolation
import CatalogSearch.Proofs.Federation.ItemUrl
import CatalogSearch.Proofs.Federation.KnownItems
import CatalogSearch.Proofs.Federation.Outcome
import CatalogSearch.Proofs.Federation.Paging
import CatalogSearch.Proofs.Federation.Provenance
import CatalogSearch.Proofs.Federation.Publisher
import CatalogSearch.Proofs.Federation.Queries
import CatalogSearch.Proofs.Filter.Dialects
import CatalogSearch.Proofs.Filter.Keyed
import CatalogSearch.Proofs.Filter.Language
import CatalogSearch.Proofs.Filter.Refused
import CatalogSearch.Proofs.Filter.RoundTrip
import CatalogSearch.Proofs.Filter.Sayable
import CatalogSearch.Proofs.Filter.SearchTerms
import CatalogSearch.Proofs.Filter.Stated
import CatalogSearch.Proofs.Gateway.Dispatch
import CatalogSearch.Proofs.Gateway.Endings
import CatalogSearch.Proofs.Gateway.Exchange
import CatalogSearch.Proofs.Gateway.Forged
import CatalogSearch.Proofs.Gateway.Parameters
import CatalogSearch.Proofs.Gateway.SearchQuery
import CatalogSearch.Proofs.Gateway.SubjectList
import CatalogSearch.Proofs.Json.FieldPut
import CatalogSearch.Proofs.Json.OneField
import CatalogSearch.Proofs.Json.Overlooked
import CatalogSearch.Proofs.Json.Replaced
import CatalogSearch.Proofs.Json.Restored
import CatalogSearch.Proofs.Json.Written
import CatalogSearch.Proofs.Merge.Comparison
import CatalogSearch.Proofs.Merge.Listed
import CatalogSearch.Proofs.Merge.Origin
import CatalogSearch.Proofs.Merge.Pages
import CatalogSearch.Proofs.Merge.Preorder
import CatalogSearch.Proofs.Merge.Remembered
import CatalogSearch.Proofs.Merge.Shuffled
import CatalogSearch.Proofs.Merge.StableSort
import CatalogSearch.Proofs.Merge.Window
import CatalogSearch.Proofs.Number.Integer
import CatalogSearch.Proofs.Number.TotalOrder
import CatalogSearch.Proofs.Repetition
import CatalogSearch.Proofs.Request.Restored
import CatalogSearch.Proofs.Resource.AgeRange
import CatalogSearch.Proofs.Resource.Leniency
import CatalogSearch.Proofs.Resource.PublishDate
import CatalogSearch.Proofs.Resource.Restored
import CatalogSearch.Proofs.Resource.Unsigned
import CatalogSearch.Proofs.Source.Reloaded
import CatalogSearch.Proofs.Text.Decimal
import CatalogSearch.Proofs.Text.DigitCut
import CatalogSearch.Proofs.Text.Percent
import CatalogSearch.Proofs.Text.Pieces
import CatalogSearch.Proofs.Url.Base
import CatalogSearch.Proofs.Url.HostEnd
import CatalogSearch.Proofs.Url.PlainPath
import CatalogSearch.Proofs.Url.Seam
import CatalogSearch.Proofs.Url.Segment
import CatalogSearch.Proofs.Url.Server
import CatalogSearch.Proofs.Url.Steps
import CatalogSearch.Proofs.Vocabulary.Lawful
import CatalogSearch.Request
import CatalogSearch.Resource.AgeRange
import CatalogSearch.Resource.Basic
import CatalogSearch.Resource.Key
import CatalogSearch.Resource.Lenient
import CatalogSearch.Source.Answer
import CatalogSearch.Source.Basic
import CatalogSearch.Source.Registry
import CatalogSearch.Text.CodeTable
import CatalogSearch.Text.CombiningClass
import CatalogSearch.Text.Composite
import CatalogSearch.Text.Digit
import CatalogSearch.Text.Direction
import CatalogSearch.Text.Joining
import CatalogSearch.Text.Letters
import CatalogSearch.Text.Mark
import CatalogSearch.Text.NormalForm
import CatalogSearch.Text.Percent
import CatalogSearch.Text.Quoted
import CatalogSearch.Text.Split
import CatalogSearch.Text.Utf8
import CatalogSearch.Text.Visible
import CatalogSearch.Text.WhiteSpace
import CatalogSearch.Toml.Reader
import CatalogSearch.Toml.Scalar
import CatalogSearch.Toml.Table
import CatalogSearch.Toml.Text
import CatalogSearch.Toml.Value
import CatalogSearch.Url.Basic
import CatalogSearch.Url.Domain.Folded
import CatalogSearch.Url.Domain.Label
import CatalogSearch.Url.Domain.Name
import CatalogSearch.Url.Domain.Refused
import CatalogSearch.Url.Domain.Spelled
import CatalogSearch.Url.Domain.Spelling
import CatalogSearch.Url.Fault
import CatalogSearch.Url.Host
import CatalogSearch.Url.Path
import CatalogSearch.Url.Punycode
import CatalogSearch.Url.Read
import CatalogSearch.Url.Reference
import CatalogSearch.Url.Scheme
import CatalogSearch.Vocabulary.Basic
import CatalogSearch.Vocabulary.Material
import CatalogSearch.Vocabulary.School
import CatalogSearch.Vocabulary.Subject
