import TracedService.CommandLine.Arguments
import TracedService.CommandLine.Program
import TracedService.CommandLine.Usage
import TracedService.Credentials.Der
import TracedService.Credentials.KeyFile
import TracedService.Credentials.Pem
import TracedService.Credentials.RsaKey
import TracedService.Credentials.TokenSource
import TracedService.Environment
import TracedService.Export.Call
import TracedService.Export.Delivery
import TracedService.Export.Endpoint
import TracedService.Export.Exporter
import TracedService.Export.Printout
import TracedService.FileContent
import TracedService.Http.Headers
import TracedService.Http.Message
import TracedService.Http.Status
import TracedService.Http.Uri
import TracedService.Identity
import TracedService.Json.Number
import TracedService.Json.Reader
import TracedService.Json.Text
import TracedService.Log.Event
import TracedService.Log.Filter
import TracedService.Log.Line
import TracedService.Log.Pattern
import TracedService.Main
import TracedService.Net.DomainCharacter
import TracedService.Net.Exchange
import TracedService.Net.Host
import TracedService.Net.Isolation
import TracedService.Net.SocketAddress
import TracedService.Net.Url
import TracedService.Number.Binary64
import TracedService.Number.Literal
import TracedService.Number.Shortest
import TracedService.Platform.Basic
import TracedService.Platform.Detection
import TracedService.Platform.Metadata
import TracedService.Proofs.CommandLine.Service
import TracedService.Proofs.Export.Binding
import TracedService.Proofs.Export.Call
import TracedService.Proofs.Export.Delivery
import TracedService.Proofs.Export.Emission
import TracedService.Proofs.Export.Labels
import TracedService.Proofs.Export.Schedule
import TracedService.Proofs.Fallible
import TracedService.Proofs.Http.HeaderStore
import TracedService.Proofs.Http.Headers
import TracedService.Proofs.Http.Uri
import TracedService.Proofs.Number.Numeral
import TracedService.Proofs.Number.Pattern
import TracedService.Proofs.Number.Units
import TracedService.Proofs.Platform.Configuration
import TracedService.Proofs.Platform.Documented
import TracedService.Proofs.Platform.Emptiness
import TracedService.Proofs.Platform.Questions
import TracedService.Proofs.Platform.Union
import TracedService.Proofs.Platform.Zone
import TracedService.Proofs.Propagation.Baggage
import TracedService.Proofs.Propagation.Extraction
import TracedService.Proofs.Propagation.Hop
import TracedService.Proofs.Propagation.Injection
import TracedService.Proofs.Propagation.RoundTrip
import TracedService.Proofs.Propagation.TraceParent
import TracedService.Proofs.Resource
import TracedService.Proofs.Sampling.Rate
import TracedService.Proofs.Sampling.Threshold
import TracedService.Proofs.Server.Addresses
import TracedService.Proofs.Server.Content
import TracedService.Proofs.Server.Continuity
import TracedService.Proofs.Server.Growth
import TracedService.Proofs.Server.Nearest
import TracedService.Proofs.Server.Serving
import TracedService.Proofs.Server.Session
import TracedService.Proofs.Server.Spans
import TracedService.Proofs.Server.Thread
import TracedService.Proofs.Server.Transparency
import TracedService.Proofs.Settings.Expansion
import TracedService.Proofs.Settings.Factorization
import TracedService.Proofs.Settings.Placeholder
import TracedService.Proofs.Settings.Shipped
import TracedService.Proofs.Settings.Template
import TracedService.Proofs.Settings.Validity
import TracedService.Proofs.Startup.Activation
import TracedService.Proofs.Startup.Agreement
import TracedService.Proofs.Startup.Containment
import TracedService.Proofs.Startup.Departure
import TracedService.Proofs.Startup.Life
import TracedService.Proofs.Startup.Outcome
import TracedService.Proofs.Startup.Reports
import TracedService.Proofs.Text.Codes
import TracedService.Proofs.Text.Lowercase
import TracedService.Proofs.Text.Pieces
import TracedService.Proofs.Text.Utf8
import TracedService.Proofs.Trace.Attributes
import TracedService.Proofs.Trace.Baggage
import TracedService.Proofs.Trace.Recorder
import TracedService.Proofs.Trace.Relocation
import TracedService.Proofs.Yaml.Scan
import TracedService.Proofs.Yaml.Sheet
import TracedService.Proofs.Yaml.SheetDocument
import TracedService.Proofs.Yaml.SheetTokens
import TracedService.Proofs.Yaml.Words
import TracedService.Propagation.BaggageHeader
import TracedService.Propagation.Hop
import TracedService.Propagation.TraceParent
import TracedService.Resource
import TracedService.Sampling.Policy
import TracedService.Server.Handler
import TracedService.Server.Layer
import TracedService.Server.Methods
import TracedService.Server.Pattern
import TracedService.Server.Place
import TracedService.Server.Router
import TracedService.Server.Routes
import TracedService.Settings.Basic
import TracedService.Settings.Expansion
import TracedService.Settings.Fault
import TracedService.Settings.Loading
import TracedService.Settings.Reader
import TracedService.Settings.Shipped
import TracedService.Settings.Validation
import TracedService.Startup.Backend
import TracedService.Startup.Build
import TracedService.Startup.Fault
import TracedService.Startup.Guard
import TracedService.Startup.Notice
import TracedService.Startup.ProcessState
import TracedService.Startup.SelfTest
import TracedService.Text.Alphanumeric
import TracedService.Text.Ascii
import TracedService.Text.Base64
import TracedService.Text.Blank
import TracedService.Text.Cased
import TracedService.Text.Hex
import TracedService.Text.Hidden
import TracedService.Text.Lowercase
import TracedService.Text.Occurs
import TracedService.Text.Percent
import TracedService.Text.Punycode
import TracedService.Text.Quoted
import TracedService.Text.Similarity
import TracedService.Text.Split
import TracedService.Text.Terminal
import TracedService.Text.Utf8
import TracedService.Trace.Baggage
import TracedService.Trace.Context
import TracedService.Trace.Recorder
import TracedService.Trace.Span
import TracedService.Trace.SpanContext
import TracedService.Yaml.Block
import TracedService.Yaml.Document
import TracedService.Yaml.Event
import TracedService.Yaml.Fault
import TracedService.Yaml.Folding
import TracedService.Yaml.Lexer
import TracedService.Yaml.Plain
import TracedService.Yaml.Quoted
import TracedService.Yaml.Source
import TracedService.Yaml.Tag
import TracedService.Yaml.Token
import TracedService.Yaml.Value
