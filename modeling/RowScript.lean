import RowScript.Text.Basic
import RowScript.Text.Alphanumeric
import RowScript.Text.Quoted
import RowScript.Decimal.Binary64
import RowScript.Decimal.Shortest
import RowScript.Decimal.Layout
import RowScript.Decimal.Numeral
import RowScript.Token.Basic
import RowScript.Token.Error
import RowScript.Token.Lexer
import RowScript.Script.Error
import RowScript.Script.Basic
import RowScript.Usage.Arguments
import RowScript.Usage.Basic
import RowScript.Calendar.Date
import RowScript.Calendar.Instant
import RowScript.Calendar.Rfc3339
import RowScript.Calendar.Field
import RowScript.Dictionary
import RowScript.Value.Basic
import RowScript.Json.Tree
import RowScript.Json.Error
import RowScript.Json.Number
import RowScript.Json.Reader
import RowScript.Value.Json
import RowScript.Row.Basic
import RowScript.Row.Json
import RowScript.Pipeline.Error
import RowScript.Schema.Basic
import RowScript.Schema.Reconcile
import RowScript.Schema.Json
import RowScript.Row.Transform
import RowScript.Context
import RowScript.Directive.Basic
import RowScript.Directive.BuiltIn
import RowScript.Directive.Registry
import RowScript.Pipeline.Basic
import RowScript.Pipeline.Session
import RowScript.Yaml.Node
import RowScript.Yaml.Scalar
import RowScript.Yaml.Document
import RowScript.Schema.Yaml
import RowScript.Settings
import RowScript.CommandLine.Grammar
import RowScript.CommandLine.Command
import RowScript.CommandLine.Report
import RowScript.CommandLine.Help
import RowScript.CommandLine.Host
import RowScript.CommandLine.Execute
import RowScript.Main
import RowScript.Proofs.Grammar
import RowScript.Proofs.Characters
import RowScript.Proofs.Numerals
import RowScript.Proofs.Lexemes
import RowScript.Proofs.Tokenization
import RowScript.Proofs.TokenFailures
import RowScript.Proofs.Lines
import RowScript.Proofs.Segments
import RowScript.Proofs.Invocations
import RowScript.Proofs.Counters
import RowScript.Proofs.RowLocality
import RowScript.Proofs.Reconciliation
import RowScript.Proofs.Batches
import RowScript.Proofs.Construction
import RowScript.Proofs.Composition
import RowScript.Proofs.Lifecycle
import RowScript.Proofs.Instances
import RowScript.Proofs.Ownership
import RowScript.Proofs.Cleanup
import RowScript.Proofs.Conformance
import RowScript.Proofs.Diagnosis
import RowScript.Proofs.Locations
import RowScript.Proofs.Nullability
import RowScript.Proofs.Positions
import RowScript.Proofs.Accounting
import RowScript.Proofs.Display
import RowScript.Proofs.Locality
import RowScript.Proofs.LineInsertion
import RowScript.Proofs.Failures
import RowScript.Proofs.Binding
import RowScript.Proofs.Readers
import RowScript.Proofs.Members
import RowScript.Proofs.OrderedMap
import RowScript.Proofs.Collections
import RowScript.Proofs.Parts
import RowScript.Proofs.RoundTrip
import RowScript.Proofs.FirstMisfit
import RowScript.Proofs.ByteOrder
import RowScript.Proofs.Registrations
import RowScript.Proofs.Edits
import RowScript.Proofs.Commutation
import RowScript.Proofs.Calendar
import RowScript.Proofs.TimestampForm
import RowScript.Proofs.TimestampText
import RowScript.Proofs.TimestampRoundTrip
import RowScript.Proofs.RecordRows
import RowScript.Proofs.TimestampParts
import RowScript.Proofs.Milliseconds
import RowScript.Proofs.Frames
import RowScript.Proofs.Repetition
import RowScript.Proofs.Preparation
import RowScript.Proofs.Evidence
import RowScript.Proofs.BlamedWords
import RowScript.Proofs.IntegerText
import RowScript.Proofs.Separators
