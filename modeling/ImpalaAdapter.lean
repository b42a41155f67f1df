import ImpalaAdapter.Main
import ImpalaAdapter.Number.Shortest
import ImpalaAdapter.Server.Inquiry
import ImpalaAdapter.Sql.Registry
import ImpalaAdapter.Temporal.Literal
import ImpalaAdapter.Proofs.Number.Numeral
import ImpalaAdapter.Proofs.Text.Quoted
import ImpalaAdapter.Proofs.Settings.Expansion
import ImpalaAdapter.Proofs.Connection.OptionSpelling
import ImpalaAdapter.Proofs.Sql.Reader
import ImpalaAdapter.Proofs.Sql.CallReading
import ImpalaAdapter.Proofs.Sql.ExpressionReading
import ImpalaAdapter.Proofs.Sql.Readability
import ImpalaAdapter.Proofs.Sql.Pipeline
import ImpalaAdapter.Proofs.Sql.ParentChain
import ImpalaAdapter.Proofs.Connection.Build
import ImpalaAdapter.Proofs.Connection.Encryption
import ImpalaAdapter.Proofs.Temporal.Denotation
import ImpalaAdapter.Proofs.Connection.ConnectionString
import ImpalaAdapter.Proofs.Connection.Query
import ImpalaAdapter.Proofs.Connection.Identity
import ImpalaAdapter.Proofs.Sql.RegistryLog
import ImpalaAdapter.Proofs.Connection.Confidentiality
import ImpalaAdapter.Proofs.Sql.RegistrationOrder
import ImpalaAdapter.Proofs.Connection.Trust
import ImpalaAdapter.Proofs.Temporal.Inlining
import ImpalaAdapter.Proofs.Sql.Piece
import ImpalaAdapter.Proofs.Sql.TokenSequence
import ImpalaAdapter.Proofs.Temporal.Delimitation
import ImpalaAdapter.Proofs.Sql.TypeDecoration
import ImpalaAdapter.Proofs.Settings.Resolution
import ImpalaAdapter.Proofs.Json.Reader
import ImpalaAdapter.Proofs.Json.Reading
import ImpalaAdapter.Proofs.CommandLine.Document
import ImpalaAdapter.Proofs.CommandLine.Connect
import ImpalaAdapter.Proofs.Server.VersionText
import ImpalaAdapter.Proofs.Server.Compatibility
import ImpalaAdapter.Proofs.Settings.ResolvedConnection
import ImpalaAdapter.Proofs.Temporal.SessionClock
import ImpalaAdapter.Proofs.Temporal.ClockRotation
import ImpalaAdapter.Proofs.Temporal.LiteralReading
import ImpalaAdapter.Proofs.Temporal.TimeOrder
import ImpalaAdapter.Proofs.Number.WholePart
import ImpalaAdapter.Proofs.Sql.IntervalSum
import ImpalaAdapter.Proofs.Sql.Layer
import ImpalaAdapter.Proofs.Sql.Truncation
import ImpalaAdapter.Proofs.Connection.EnvironmentParameters
import ImpalaAdapter.Proofs.Settings.Source
import ImpalaAdapter.Proofs.Connection.FailureExplanation
import ImpalaAdapter.Proofs.Advisory.Run
import ImpalaAdapter.Proofs.Sql.ArgumentBoundaries
import ImpalaAdapter.Proofs.Connection.OptionConcatenation
import ImpalaAdapter.Proofs.Sql.ParentWalk
