import FilterQuery.Config.Basic
import FilterQuery.Config.Document
import FilterQuery.Criteria
import FilterQuery.Date
import FilterQuery.Decimal.Binary64
import FilterQuery.Decimal.Digits
import FilterQuery.Decimal.Shortest
import FilterQuery.Filter.Fields
import FilterQuery.Filter.Value
import FilterQuery.Json.Basic
import FilterQuery.Json.Number
import FilterQuery.Json.Parser
import FilterQuery.Json.Token
import FilterQuery.ListEndpoint
import FilterQuery.Main
import FilterQuery.NameMap
import FilterQuery.Operator
import FilterQuery.Paging.Page
import FilterQuery.Paging.Request
import FilterQuery.Query.Compile
import FilterQuery.Query.Lexeme
import FilterQuery.Query.Lexer
import FilterQuery.Query.Parser
import FilterQuery.Query.Predicate
import FilterQuery.Query.Token
import FilterQuery.Session
import FilterQuery.Session.Request
import FilterQuery.Sql.Expr
import FilterQuery.Sql.Quoted
import FilterQuery.Sql.Select
import FilterQuery.Text.Alphabetic
import FilterQuery.Text.CharClass
import FilterQuery.Text.Composition
import FilterQuery.Text.Extending
import FilterQuery.Text.Hex
import FilterQuery.Text.Invisible
import FilterQuery.Text.Normal
import FilterQuery.Text.Numeric
import FilterQuery.Text.RangeSet
import FilterQuery.Text.Table
import FilterQuery.Text.Visible
import FilterQuery.Url.Authority
import FilterQuery.Url.Basic
import FilterQuery.Url.Domain
import FilterQuery.Url.Domain.Classes
import FilterQuery.Url.Domain.Mapping
import FilterQuery.Url.Ipv4
import FilterQuery.Url.Ipv6
import FilterQuery.Url.Parser
import FilterQuery.Url.Path
import FilterQuery.Url.Percent
import FilterQuery.Url.Punycode
import FilterQuery.Url.Update
import FilterQuery.Proofs.Config.Documents
import FilterQuery.Proofs.Decimal.Text
import FilterQuery.Proofs.Filter.Dates
import FilterQuery.Proofs.Filter.Leaves
import FilterQuery.Proofs.Filter.Numbers
import FilterQuery.Proofs.Filter.Rejection
import FilterQuery.Proofs.Filter.Resolution
import FilterQuery.Proofs.Filter.Typing
import FilterQuery.Proofs.Json.Reading
import FilterQuery.Proofs.Json.Spelling
import FilterQuery.Proofs.NameMap
import FilterQuery.Proofs.Paging.Base
import FilterQuery.Proofs.Paging.Exact
import FilterQuery.Proofs.Paging.Links
import FilterQuery.Proofs.Paging.Page
import FilterQuery.Proofs.Paging.Sizes
import FilterQuery.Proofs.Paging.Walk
import FilterQuery.Proofs.Query.Canonical
import FilterQuery.Proofs.Query.Composition
import FilterQuery.Proofs.Query.Cursor
import FilterQuery.Proofs.Query.Descent
import FilterQuery.Proofs.Query.Extent
import FilterQuery.Proofs.Query.Faults
import FilterQuery.Proofs.Query.FirstMisfit
import FilterQuery.Proofs.Query.Forms
import FilterQuery.Proofs.Query.Grammar
import FilterQuery.Proofs.Query.Groups
import FilterQuery.Proofs.Query.Heads
import FilterQuery.Proofs.Query.Layout
import FilterQuery.Proofs.Query.Lexing
import FilterQuery.Proofs.Query.Limits
import FilterQuery.Proofs.Query.Moves
import FilterQuery.Proofs.Query.Parsing
import FilterQuery.Proofs.Query.Quotes
import FilterQuery.Proofs.Query.RoundTrip
import FilterQuery.Proofs.Query.Spelling
import FilterQuery.Proofs.Query.Stack
import FilterQuery.Proofs.Query.Stream
import FilterQuery.Proofs.Query.Tiling
import FilterQuery.Proofs.Reading
import FilterQuery.Proofs.Results
import FilterQuery.Proofs.Session.Lines
import FilterQuery.Proofs.Session.Runs
import FilterQuery.Proofs.Sql.Collapses
import FilterQuery.Proofs.Sql.Direct
import FilterQuery.Proofs.Sql.Equalities
import FilterQuery.Proofs.Sql.Lexing
import FilterQuery.Proofs.Sql.Meaning
import FilterQuery.Proofs.Sql.Patterns
import FilterQuery.Proofs.Sql.Printing
import FilterQuery.Proofs.Sql.Reader
import FilterQuery.Proofs.Sql.Recovery
import FilterQuery.Proofs.Sql.Tokens
import FilterQuery.Proofs.Text.Classes
