import BillingQuery.Calendar.Day
import BillingQuery.Filter.Coerce
import BillingQuery.Filter.Issue
import BillingQuery.Filter.Operand
import BillingQuery.Filter.Plan
import BillingQuery.Filter.Record
import BillingQuery.Filter.Tree
import BillingQuery.Filter.Wire
import BillingQuery.Json.Basic
import BillingQuery.Json.Decode
import BillingQuery.Json.Embedded
import BillingQuery.Json.Literal
import BillingQuery.Json.Parts
import BillingQuery.Json.Reader
import BillingQuery.Json.Skip
import BillingQuery.Json.Token
import BillingQuery.Json.Writer
import BillingQuery.Main
import BillingQuery.Number.Binary64
import BillingQuery.Number.Decimal
import BillingQuery.Number.Extended
import BillingQuery.Number.Numeral
import BillingQuery.Proofs.Admission
import BillingQuery.Proofs.Assembled
import BillingQuery.Proofs.Backends
import BillingQuery.Proofs.CheckOrder
import BillingQuery.Proofs.Chronology
import BillingQuery.Proofs.Compiled
import BillingQuery.Proofs.Confined
import BillingQuery.Proofs.DayTexts
import BillingQuery.Proofs.Days
import BillingQuery.Proofs.Degradation
import BillingQuery.Proofs.DroppedConditions
import BillingQuery.Proofs.FirstOccurrences
import BillingQuery.Proofs.FlatStatement
import BillingQuery.Proofs.Isolation
import BillingQuery.Proofs.Issues
import BillingQuery.Proofs.JsonTexts
import BillingQuery.Proofs.LetterCase
import BillingQuery.Proofs.LikePattern
import BillingQuery.Proofs.ListingRun
import BillingQuery.Proofs.LiteralPatterns
import BillingQuery.Proofs.LoadedListing
import BillingQuery.Proofs.LowerCase
import BillingQuery.Proofs.Meaning
import BillingQuery.Proofs.Measures
import BillingQuery.Proofs.NearestDoubles
import BillingQuery.Proofs.NumberTests
import BillingQuery.Proofs.NumberText
import BillingQuery.Proofs.NumericSettings
import BillingQuery.Proofs.OneOf
import BillingQuery.Proofs.Padding
import BillingQuery.Proofs.Paging
import BillingQuery.Proofs.Placeholders
import BillingQuery.Proofs.PlanForm
import BillingQuery.Proofs.PlanShape
import BillingQuery.Proofs.PlanTests
import BillingQuery.Proofs.PlanText
import BillingQuery.Proofs.RangeConditions
import BillingQuery.Proofs.RegexSearch
import BillingQuery.Proofs.Rejections
import BillingQuery.Proofs.ResultSize
import BillingQuery.Proofs.RowCap
import BillingQuery.Proofs.RowOrder
import BillingQuery.Proofs.RowRecord
import BillingQuery.Proofs.RowTests
import BillingQuery.Proofs.Running
import BillingQuery.Proofs.Skeletons
import BillingQuery.Proofs.Spellings
import BillingQuery.Proofs.SqlReading
import BillingQuery.Proofs.SqlStatements
import BillingQuery.Proofs.SqlTexts
import BillingQuery.Proofs.SqlTokens
import BillingQuery.Proofs.StatementLanguage
import BillingQuery.Proofs.StoredRows
import BillingQuery.Proofs.StoredValues
import BillingQuery.Proofs.TenantClause
import BillingQuery.Proofs.Text
import BillingQuery.Proofs.TextSets
import BillingQuery.Proofs.TextTests
import BillingQuery.Proofs.TreeAlgebra
import BillingQuery.Proofs.Truth
import BillingQuery.Proofs.Views
import BillingQuery.Proofs.WholeDoubles
import BillingQuery.Proofs.Widening
import BillingQuery.Proofs.WireRoundTrip
import BillingQuery.Query.AdHoc
import BillingQuery.Query.AdHocWire
import BillingQuery.Query.AllowList
import BillingQuery.Query.Compile
import BillingQuery.Query.Error
import BillingQuery.Query.Limits
import BillingQuery.Query.Sort
import BillingQuery.Query.StatementGuard
import BillingQuery.Schema.Field
import BillingQuery.Schema.Resource
import BillingQuery.Service.Answer
import BillingQuery.Service.Caller
import BillingQuery.Service.Catalogue
import BillingQuery.Service.Listing
import BillingQuery.Service.MediaType
import BillingQuery.Service.Preflight
import BillingQuery.Service.Request
import BillingQuery.Service.Route
import BillingQuery.Service.Server
import BillingQuery.Service.Settings
import BillingQuery.Service.Wire
import BillingQuery.Sql.Cell
import BillingQuery.Sql.Like
import BillingQuery.Sql.Predicate
import BillingQuery.Sql.RealText
import BillingQuery.Sql.Statement
import BillingQuery.Sql.Truth
import BillingQuery.Store.Allowance
import BillingQuery.Store.Database
import BillingQuery.Store.Insertion
import BillingQuery.Store.Layout
import BillingQuery.Store.RawQuery
import BillingQuery.Store.Run
import BillingQuery.Store.Scan
import BillingQuery.Store.Wire
import BillingQuery.Text.Blank
import BillingQuery.Text.Fold
import BillingQuery.Text.Percent
import BillingQuery.Text.Printable
import BillingQuery.Text.Quoted
import BillingQuery.Text.Ranges
import BillingQuery.Text.Regex
import BillingQuery.Text.Search
import BillingQuery.Text.Utf8
import BillingQuery.Text.Word
