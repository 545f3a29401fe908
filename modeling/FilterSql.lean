import FilterSql.Cell.Json
import FilterSql.Execution.NumberedRows
import FilterSql.Main
import FilterSql.Service.Router
import FilterSql.Proofs.Calendar.DateText
import FilterSql.Proofs.Keyed
import FilterSql.Proofs.Catalog.Names
import FilterSql.Proofs.Catalog.AliasChoice
import FilterSql.Proofs.Catalog.Aliases
import FilterSql.Proofs.Catalog.Extension
import FilterSql.Proofs.Paging
import FilterSql.Proofs.Execution.Paging
import FilterSql.Proofs.Execution.Trace
import FilterSql.Proofs.Execution.Protocol
import FilterSql.Proofs.Execution.Bounds
import FilterSql.Proofs.Query.Layout
import FilterSql.Proofs.Query.OperatorToken
import FilterSql.Proofs.Query.TermRecord
import FilterSql.Proofs.Query.OperatorKind
import FilterSql.Proofs.Query.ConditionText
import FilterSql.Proofs.Query.Compilation
import FilterSql.Proofs.Query.Placeholders
import FilterSql.Proofs.Query.Sentence
import FilterSql.Proofs.Agreement
import FilterSql.Proofs.Query.Noninterference
import FilterSql.Proofs.Sql.Lexer
import FilterSql.Proofs.Sql.Like
import FilterSql.Proofs.Sql.Syntax
import FilterSql.Proofs.Query.WellFormed
import FilterSql.Proofs.Sql.Meaning
import FilterSql.Proofs.Query.Reading
import FilterSql.Proofs.Query.TermMeaning
import FilterSql.Proofs.Query.FilterMeaning
import FilterSql.Proofs.Query.HeaderFields
import FilterSql.Proofs.Query.DateSpelling
import FilterSql.Proofs.Query.DateForm
import FilterSql.Proofs.Query.WholeDay
import FilterSql.Proofs.FirstFault
import FilterSql.Proofs.Query.Refusal
import FilterSql.Proofs.Query.HeaderPartition
import FilterSql.Proofs.Query.FilterErrors
import FilterSql.Proofs.Query.Blame
import FilterSql.Proofs.Query.FlatFilter
import FilterSql.Proofs.Query.NothingDropped
import FilterSql.Proofs.Query.FlatOrder
import FilterSql.Proofs.Query.FilterShapes
import FilterSql.Proofs.Query.ArrayShape
import FilterSql.Proofs.Query.TermCount
import FilterSql.Proofs.Query.ColumnNames
import FilterSql.Proofs.Query.PaddedNames
import FilterSql.Proofs.Settings.Precedence
import FilterSql.Proofs.Settings.RecordTypes
import FilterSql.Proofs.Service.Trace
import FilterSql.Proofs.Service.QueryAnswer
import FilterSql.Proofs.Service.Capabilities
import FilterSql.Proofs.Service.Lifecycle
import FilterSql.Proofs.Calendar.DayAfter
import FilterSql.Proofs.Calendar.DayNumber
import FilterSql.Proofs.Calendar.Moment
import FilterSql.Proofs.Cell.Timestamp
import FilterSql.Proofs.Cell.Conversion
import FilterSql.Proofs.Cell.Integer
import FilterSql.Proofs.Query.AcceptedDates
import FilterSql.Proofs.Cell.Date
import FilterSql.Proofs.FilePath
import FilterSql.Proofs.Json.NumberLayout
import FilterSql.Proofs.Json.StringText
import FilterSql.Proofs.Query.ScalarJson
import FilterSql.Proofs.Text.Lowercase
import FilterSql.Proofs.Text.Replacement
import FilterSql.Proofs.Query.PatternOperand
import FilterSql.Proofs.Query.TwoRuns
import FilterSql.Proofs.Query.Arrangement
import FilterSql.Proofs.Query.Dialects
import FilterSql.Proofs.Query.SettingsEffect
import FilterSql.Proofs.Query.SameField
import FilterSql.Proofs.Query.DateRange
import FilterSql.Proofs.PageRange
import FilterSql.Proofs.Service.Origin
