import FilterQuery.Text.Blank
import FilterQuery.Text.DecimalDigit
import FilterQuery.Text.LowerCase
import FilterQuery.Text.Order
import FilterQuery.Text.Quoted
import FilterQuery.Json.Printer
import FilterQuery.Json.Reader
import FilterQuery.Number.Decimal
import FilterQuery.Time.Rfc3339
import FilterQuery.Field.Cache
import FilterQuery.Field.Selection
import FilterQuery.Query
import FilterQuery.Timeframe
import FilterQuery.Number.Shortest
import FilterQuery.ReferenceTime
import FilterQuery.Pacing.Pacer
import FilterQuery.Field.Action
import FilterQuery.Config.Loading
import FilterQuery.Server.Wire
import FilterQuery.Session.Step
import FilterQuery.Yaml.Reader
import FilterQuery.Service.Route
import FilterQuery.CommandLine.Run
import FilterQuery.Main
import FilterQuery.Proofs.Outcome
import FilterQuery.Proofs.Entries
import FilterQuery.Proofs.Text.Blank
import FilterQuery.Proofs.Text.LowerCase
import FilterQuery.Proofs.Text.Order
import FilterQuery.Proofs.Text.Run
import FilterQuery.Proofs.Time.Calendar
import FilterQuery.Proofs.Time.Moment
import FilterQuery.Proofs.Time.Rfc3339
import FilterQuery.Proofs.Time.Writing
import FilterQuery.Proofs.Time.Splitting
import FilterQuery.Proofs.Timeframe
import FilterQuery.Proofs.Timeframe.Language
import FilterQuery.Proofs.Timeframe.Window
import FilterQuery.Proofs.ReferenceTime
import FilterQuery.Proofs.Filter.FieldName
import FilterQuery.Proofs.Filter.Value
import FilterQuery.Proofs.Filter.Grammar
import FilterQuery.Proofs.Filter.Consulting
import FilterQuery.Proofs.Filter.Escape
import FilterQuery.Proofs.Filter.Spelling
import FilterQuery.Proofs.Filter.Pattern
import FilterQuery.Proofs.Filter.IntegerText
import FilterQuery.Proofs.Filter.Collecting
import FilterQuery.Proofs.Filter.DateReading
import FilterQuery.Proofs.Filter.WrittenTime
import FilterQuery.Proofs.Filter.UnixTime
import FilterQuery.Proofs.Filter.Fault
import FilterQuery.Proofs.Filter.Pieces
import FilterQuery.Proofs.Filter.FixedName
import FilterQuery.Proofs.Query.Building
import FilterQuery.Proofs.Query.Fault
import FilterQuery.Proofs.Query.LeadingWildcard
import FilterQuery.Proofs.Query.Form
import FilterQuery.Proofs.Query.Printing
import FilterQuery.Proofs.Number.Integer
import FilterQuery.Proofs.Number.Rounding
import FilterQuery.Proofs.Number.Order
import FilterQuery.Proofs.Number.Product
import FilterQuery.Proofs.Number.Nearest
import FilterQuery.Proofs.Number.Shortest
import FilterQuery.Proofs.Number.Significant
import FilterQuery.Proofs.Number.Thousandth
import FilterQuery.Proofs.Number.Microsecond
import FilterQuery.Proofs.Number.Difference
import FilterQuery.Proofs.Number.Quotient
import FilterQuery.Proofs.Number.Decimal
import FilterQuery.Proofs.Json.Scalar
import FilterQuery.Proofs.Json.Reading
import FilterQuery.Proofs.Json.Decoding
import FilterQuery.Proofs.Yaml.Mapping
import FilterQuery.Proofs.Pacing.Wait
import FilterQuery.Proofs.Pacing.Progress
import FilterQuery.Proofs.Pacing.Slot
import FilterQuery.Proofs.Pacing.Moderate
import FilterQuery.Proofs.Pacing.Backoff
import FilterQuery.Proofs.Field.Selection
import FilterQuery.Proofs.Field.Cache
import FilterQuery.Proofs.Field.Capabilities
import FilterQuery.Proofs.Field.Path
import FilterQuery.Proofs.Field.Listing
import FilterQuery.Proofs.Field.Batch
import FilterQuery.Proofs.Session.Act
import FilterQuery.Proofs.Session.Enactment
import FilterQuery.Proofs.Session.Trials
import FilterQuery.Proofs.Session.Sending
import FilterQuery.Proofs.Session.Pacing
import FilterQuery.Proofs.Session.Pauses
import FilterQuery.Proofs.Session.Execution
import FilterQuery.Proofs.Session.Batches
import FilterQuery.Proofs.Session.Exchange
import FilterQuery.Proofs.Session.Release
import FilterQuery.Proofs.Session.Round
import FilterQuery.Proofs.Session.Accounting
import FilterQuery.Proofs.Session.Scrolling
import FilterQuery.Proofs.Session.Description
import FilterQuery.Proofs.Session.Compiling
import FilterQuery.Proofs.Session.Activity
import FilterQuery.Proofs.Session.Failure
import FilterQuery.Proofs.Session.Agreement
import FilterQuery.Proofs.Config.Loading
import FilterQuery.Proofs.Config.Fault
import FilterQuery.Proofs.Config.Precedence
import FilterQuery.Proofs.Service
import FilterQuery.Proofs.CommandLine.Options
import FilterQuery.Proofs.CommandLine.Setup
import FilterQuery.Proofs.CommandLine.Breakdown
import FilterQuery.Proofs.CommandLine.Agreement
