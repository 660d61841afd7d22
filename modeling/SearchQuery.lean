import SearchQuery.Command.Arguments
import SearchQuery.Command.Basic
import SearchQuery.Command.Build
import SearchQuery.Command.Call
import SearchQuery.Command.Failure
import SearchQuery.Command.Invocation
import SearchQuery.Command.Reach
import SearchQuery.Command.Run
import SearchQuery.Command.TokenTable
import SearchQuery.Decimal.Binary64
import SearchQuery.Decimal.Shortest
import SearchQuery.Event
import SearchQuery.Files.Path
import SearchQuery.Files.Tree
import SearchQuery.IndexName
import SearchQuery.Json.Basic
import SearchQuery.Json.Escape
import SearchQuery.Json.NumberText
import SearchQuery.Json.Numeral
import SearchQuery.Json.Reader
import SearchQuery.Json.Record
import SearchQuery.Json.Strict
import SearchQuery.Json.Writer
import SearchQuery.LogFilter
import SearchQuery.Main
import SearchQuery.Proofs.Command.Calls
import SearchQuery.Proofs.Command.Failures
import SearchQuery.Proofs.Command.Init
import SearchQuery.Proofs.Command.Layers
import SearchQuery.Proofs.Command.PageSize
import SearchQuery.Proofs.Command.Search
import SearchQuery.Proofs.Command.TokenTable
import SearchQuery.Proofs.Command.Tokens
import SearchQuery.Proofs.Decimal.Nearest
import SearchQuery.Proofs.Decimal.Shortest
import SearchQuery.Proofs.Decimal.Written
import SearchQuery.Proofs.Files.Location
import SearchQuery.Proofs.Files.Path
import SearchQuery.Proofs.Files.Tree
import SearchQuery.Proofs.Json.Blanks
import SearchQuery.Proofs.Json.Escape
import SearchQuery.Proofs.Json.FieldOrigin
import SearchQuery.Proofs.Json.Grammar
import SearchQuery.Proofs.Json.LastMember
import SearchQuery.Proofs.Json.Limits
import SearchQuery.Proofs.Json.Nodes
import SearchQuery.Proofs.Json.NumberText
import SearchQuery.Proofs.Json.Numeral
import SearchQuery.Proofs.Json.Record
import SearchQuery.Proofs.Json.Resolving
import SearchQuery.Proofs.Json.RoundTrip
import SearchQuery.Proofs.Query.Building
import SearchQuery.Proofs.Query.Compile
import SearchQuery.Proofs.Query.ComposedValue
import SearchQuery.Proofs.Query.Confinement
import SearchQuery.Proofs.Query.Decoding
import SearchQuery.Proofs.Query.DistinctKeys
import SearchQuery.Proofs.Query.Document
import SearchQuery.Proofs.Query.FilterEntries
import SearchQuery.Proofs.Query.FilterOnly
import SearchQuery.Proofs.Query.Filters
import SearchQuery.Proofs.Query.Grouping
import SearchQuery.Proofs.Query.LegacyPayload
import SearchQuery.Proofs.Query.LegacyRoundTrip
import SearchQuery.Proofs.Query.Meaning
import SearchQuery.Proofs.Query.Outcome
import SearchQuery.Proofs.Query.Pages
import SearchQuery.Proofs.Query.Rendering
import SearchQuery.Proofs.Query.SearchedFields
import SearchQuery.Proofs.Query.TextSearch
import SearchQuery.Proofs.Request.Reading
import SearchQuery.Proofs.Settings.Discovery
import SearchQuery.Proofs.Settings.Loading
import SearchQuery.Proofs.Settings.Merging
import SearchQuery.Proofs.Settings.Precedence
import SearchQuery.Proofs.Settings.RoundTrip
import SearchQuery.Proofs.Settings.Silent
import SearchQuery.Proofs.Settings.Template
import SearchQuery.Proofs.Term.BlankToken
import SearchQuery.Proofs.Term.OfToken
import SearchQuery.Proofs.Term.Scanners
import SearchQuery.Proofs.Term.Written
import SearchQuery.Proofs.Terminal.Highlight
import SearchQuery.Proofs.Terminal.JsonSpans
import SearchQuery.Proofs.Terminal.Spans
import SearchQuery.Proofs.Terminal.TomlSpans
import SearchQuery.Proofs.Text.Blank
import SearchQuery.Proofs.Text.Lines
import SearchQuery.Proofs.Text.LowerCase
import SearchQuery.Proofs.Text.Slice
import SearchQuery.Proofs.Token.Branch
import SearchQuery.Proofs.Token.Decomposition
import SearchQuery.Proofs.Token.Joining
import SearchQuery.Proofs.Token.Phrase
import SearchQuery.Proofs.Toml.Number
import SearchQuery.Proofs.Toml.Statement
import SearchQuery.Proofs.Toml.Text
import SearchQuery.Query.Clause
import SearchQuery.Query.Compile
import SearchQuery.Query.Encoding
import SearchQuery.Query.Fanout
import SearchQuery.Query.Filter
import SearchQuery.Query.Grouping
import SearchQuery.Query.Highlight
import SearchQuery.Query.Legacy
import SearchQuery.Request.Basic
import SearchQuery.Request.Encoding
import SearchQuery.Settings.Basic
import SearchQuery.Settings.Discovery
import SearchQuery.Settings.File
import SearchQuery.Settings.Template
import SearchQuery.Term.Basic
import SearchQuery.Term.Bytes
import SearchQuery.Term.Classify
import SearchQuery.Term.Extract
import SearchQuery.Term.Token
import SearchQuery.Terminal.Highlight
import SearchQuery.Terminal.JsonGrammar
import SearchQuery.Terminal.Span
import SearchQuery.Terminal.Style
import SearchQuery.Terminal.TomlGrammar
import SearchQuery.Text.AlphanumericTable
import SearchQuery.Text.Blank
import SearchQuery.Text.CasingTable
import SearchQuery.Text.Hex
import SearchQuery.Text.Layout
import SearchQuery.Text.LowerCase
import SearchQuery.Text.Natural
import SearchQuery.Text.Pattern
import SearchQuery.Text.Pieces
import SearchQuery.Text.Quoted
import SearchQuery.Text.QuotedTable
import SearchQuery.Text.Ranges
import SearchQuery.Text.Slice
import SearchQuery.Toml.Basic
import SearchQuery.Toml.Datetime
import SearchQuery.Toml.Number
import SearchQuery.Toml.Reader
import SearchQuery.Toml.Text
import SearchQuery.Toml.Writer
