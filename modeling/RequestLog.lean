import RequestLog.Act
import RequestLog.App
import RequestLog.Credentials
import RequestLog.Exchange
import RequestLog.Fault
import RequestLog.Format.Builder
import RequestLog.Format.Catalog
import RequestLog.Headers
import RequestLog.Log.LineFormat
import RequestLog.Log.Placement
import RequestLog.Log.Setup
import RequestLog.LogLine
import RequestLog.Logger
import RequestLog.LoggerOptions
import RequestLog.Misfit
import RequestLog.Number.Binary64
import RequestLog.Number.Decimal
import RequestLog.Number.Numeral
import RequestLog.Number.Places
import RequestLog.Record
import RequestLog.Service.Basic
import RequestLog.Service.HostName
import RequestLog.Service.Json
import RequestLog.Service.Page
import RequestLog.Service.Parameters
import RequestLog.Service.Routes
import RequestLog.Settings
import RequestLog.Store.Address
import RequestLog.Store.Client
import RequestLog.Store.Host
import RequestLog.Store.Sink
import RequestLog.Table
import RequestLog.Template
import RequestLog.Text.Ascii
import RequestLog.Text.Base64
import RequestLog.Text.Blank
import RequestLog.Text.CaseTable
import RequestLog.Text.CharTable
import RequestLog.Text.Cut
import RequestLog.Text.Digit
import RequestLog.Text.Latin
import RequestLog.Text.LetterCase
import RequestLog.Text.Percent
import RequestLog.Text.Printable
import RequestLog.Text.Quoted
import RequestLog.Text.Utf8
import RequestLog.Text.Word
import RequestLog.Timing
import RequestLog.Token.Builtin
import RequestLog.Token.Registry
import RequestLog.Token.Shelf
import RequestLog.Value.Basic
import RequestLog.Value.Elements
import RequestLog.Value.Equality
import RequestLog.Value.Keyed
import RequestLog.Value.Literal
import RequestLog.Value.Moment
import RequestLog.Proofs.Act
import RequestLog.Proofs.Run
import RequestLog.Proofs.Scope
import RequestLog.Proofs.Logger.Steps
import RequestLog.Proofs.Logger.Transparency
import RequestLog.Proofs.Logger.Course
import RequestLog.Proofs.Logger.Once
import RequestLog.Proofs.Logger.Sent
import RequestLog.Proofs.Build
import RequestLog.Proofs.Service.Answers
import RequestLog.Proofs.Service.Status
import RequestLog.Proofs.Format.Cache
import RequestLog.Proofs.Format.Sharing
import RequestLog.Proofs.Token.Shelf
import RequestLog.Proofs.Settings.InForce
import RequestLog.Proofs.Settings.AnyName
import RequestLog.Proofs.Template.References
import RequestLog.Proofs.Template.Meaning
import RequestLog.Proofs.Template.Isolation
import RequestLog.Proofs.Template.Gate
import RequestLog.Proofs.Template.Rendering
import RequestLog.Proofs.Store.Schedule
import RequestLog.Proofs.Store.Session
import RequestLog.Proofs.Store.Encryption
import RequestLog.Proofs.Store.Search
import RequestLog.Proofs.Store.Refusal
import RequestLog.Proofs.Log.Installed
import RequestLog.Proofs.Logger.Planned
import RequestLog.Proofs.Logger.Feeding
import RequestLog.Proofs.Logger.Target
import RequestLog.Proofs.Logger.Documents
import RequestLog.Proofs.Service.Matching
import RequestLog.Proofs.Service.Paging
import RequestLog.Proofs.Service.Shown
import RequestLog.Proofs.Service.Asking
import RequestLog.Proofs.Service.Listing
import RequestLog.Proofs.Logger.Marks
import RequestLog.Proofs.Credentials.Header
import RequestLog.Proofs.Forwarding
import RequestLog.Proofs.Credentials.Reading
import RequestLog.Proofs.Secrecy.Settings
import RequestLog.Proofs.Secrecy.Store
import RequestLog.Proofs.Secrecy.Process
import RequestLog.Proofs.Secrecy.Runs
import RequestLog.Proofs.Text.Base64
import RequestLog.Proofs.Text.Utf8
import RequestLog.Proofs.Text.Parts
import RequestLog.Proofs.Text.Plain
import RequestLog.Proofs.Twin
import RequestLog.Proofs.Text.Latin
import RequestLog.Proofs.Token.Headers
import RequestLog.Proofs.Lifecycle
import RequestLog.Proofs.Logger.Retrieval
import RequestLog.Proofs.Url
import RequestLog.Proofs.Table
import RequestLog.Proofs.Value
import RequestLog.Proofs.Record
