import OutboxProvisioning.Batch
import OutboxProvisioning.Calendar
import OutboxProvisioning.Consumer.Loop
import OutboxProvisioning.Consumer.Timeline
import OutboxProvisioning.Decimal.Shortest
import OutboxProvisioning.DomainError
import OutboxProvisioning.Event
import OutboxProvisioning.Identifier
import OutboxProvisioning.Instant
import OutboxProvisioning.Instant.Printer
import OutboxProvisioning.Instant.Reader
import OutboxProvisioning.Json.Fault
import OutboxProvisioning.Json.Number
import OutboxProvisioning.Json.Printer
import OutboxProvisioning.Json.Reader
import OutboxProvisioning.Json.Record
import OutboxProvisioning.Json.Scanner
import OutboxProvisioning.Json.Skip
import OutboxProvisioning.Log
import OutboxProvisioning.Log.Filter
import OutboxProvisioning.Log.Filter.Directive
import OutboxProvisioning.Log.Filter.Pattern
import OutboxProvisioning.Log.Filter.Pattern.Atom
import OutboxProvisioning.Log.Filter.Pattern.Bracket
import OutboxProvisioning.Log.Filter.Pattern.Flags
import OutboxProvisioning.Log.Filter.Value
import OutboxProvisioning.Log.Printer
import OutboxProvisioning.Main
import OutboxProvisioning.Payload
import OutboxProvisioning.Proofs.Program
import OutboxProvisioning.Proofs.Protocol
import OutboxProvisioning.Proofs.Staging
import OutboxProvisioning.Proofs.Table
import OutboxProvisioning.Provision
import OutboxProvisioning.ProvisioningError
import OutboxProvisioning.Service
import OutboxProvisioning.Settings
import OutboxProvisioning.Settings.Consumer
import OutboxProvisioning.Settings.Database
import OutboxProvisioning.Settings.Flaw
import OutboxProvisioning.Settings.Load
import OutboxProvisioning.Settings.Logging
import OutboxProvisioning.Settings.Section
import OutboxProvisioning.Settings.Tree
import OutboxProvisioning.Sql.Address
import OutboxProvisioning.Sql.Migration
import OutboxProvisioning.Sql.Reply
import OutboxProvisioning.Sql.Script
import OutboxProvisioning.Sql.Scripted
import OutboxProvisioning.Sql.Session
import OutboxProvisioning.Sql.Statement
import OutboxProvisioning.Store
import OutboxProvisioning.Store.Script
import OutboxProvisioning.Table
import OutboxProvisioning.Text.Alphanumeric
import OutboxProvisioning.Text.Blank
import OutboxProvisioning.Text.Cased
import OutboxProvisioning.Text.Collapse
import OutboxProvisioning.Text.Duration
import OutboxProvisioning.Text.IpAddress
import OutboxProvisioning.Text.Lowercase
import OutboxProvisioning.Text.Natural
import OutboxProvisioning.Text.Printable
import OutboxProvisioning.Text.Quoted
import OutboxProvisioning.Text.Runs
import OutboxProvisioning.Text.Split
import OutboxProvisioning.Text.Utf8
import OutboxProvisioning.Uuid
import OutboxProvisioning.Uuid.Fresh
import OutboxProvisioning.Uuid.Reader
import OutboxProvisioning.Variables
import OutboxProvisioning.Variables.Assignment
import OutboxProvisioning.Variables.File
import OutboxProvisioning.Wire
import OutboxProvisioning.Workspace
import OutboxProvisioning.Proofs.Serial
import OutboxProvisioning.Proofs.Handling
import OutboxProvisioning.Proofs.Sharing
import OutboxProvisioning.Proofs.Finality
import OutboxProvisioning.Proofs.Calm
import OutboxProvisioning.Proofs.Progress
import OutboxProvisioning.Proofs.Crowd
import OutboxProvisioning.Proofs.Shutdown
import OutboxProvisioning.Proofs.Transcript
import OutboxProvisioning.Proofs.Brackets
import OutboxProvisioning.Proofs.Utf8
import OutboxProvisioning.Proofs.Json.Grammar
import OutboxProvisioning.Proofs.Json.Text
import OutboxProvisioning.Proofs.Json.Number
import OutboxProvisioning.Proofs.Json.Skip
import OutboxProvisioning.Proofs.Json.Reader
import OutboxProvisioning.Proofs.Json.Natural
import OutboxProvisioning.Proofs.Json.Object
import OutboxProvisioning.Proofs.Json.Printer
import OutboxProvisioning.Proofs.Json.Record
import OutboxProvisioning.Proofs.Payload
import OutboxProvisioning.Proofs.Calendar
import OutboxProvisioning.Proofs.Uuid
import OutboxProvisioning.Proofs.Instant
import OutboxProvisioning.Proofs.RoundTrip
import OutboxProvisioning.Proofs.Text
import OutboxProvisioning.Proofs.Settings.Given
import OutboxProvisioning.Proofs.Settings.Section
import OutboxProvisioning.Proofs.Settings.Assignment
import OutboxProvisioning.Proofs.Settings.Sources
import OutboxProvisioning.Proofs.Verdict
import OutboxProvisioning.Proofs.Report
import OutboxProvisioning.Proofs.Oldest
import OutboxProvisioning.Proofs.Rhythm
import OutboxProvisioning.Proofs.Timeline
import OutboxProvisioning.Proofs.Strict
import OutboxProvisioning.Proofs.Spelling
import OutboxProvisioning.Proofs.Naming
import OutboxProvisioning.Proofs.Retry
import OutboxProvisioning.Proofs.Journal
import OutboxProvisioning.Proofs.Chronicle
import OutboxProvisioning.Proofs.Later
import OutboxProvisioning.Proofs.Settings.Url
import OutboxProvisioning.Proofs.Settings.Validation
import OutboxProvisioning.Proofs.Settings.Redaction
import OutboxProvisioning.Proofs.Intact
import OutboxProvisioning.Proofs.Utf8.Order
import OutboxProvisioning.Proofs.Details
