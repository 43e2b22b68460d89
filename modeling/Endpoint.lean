import Endpoint.Config.Basic
import Endpoint.Config.Dotenv
import Endpoint.Config.Error
import Endpoint.Config.Facility
import Endpoint.Config.JsonForm
import Endpoint.Config.Loader
import Endpoint.Config.Validation
import Endpoint.Config.Variable
import Endpoint.Error.Basic
import Endpoint.Error.Category
import Endpoint.Error.Record
import Endpoint.Fault.Basic
import Endpoint.Fault.MessageBook
import Endpoint.Field.JsonForm
import Endpoint.Field.Kind
import Endpoint.Field.Path
import Endpoint.Field.Schema
import Endpoint.Field.Subject
import Endpoint.Handler.Basic
import Endpoint.Handler.Builder
import Endpoint.Handler.Logic
import Endpoint.Handler.Phase
import Endpoint.Handler.Script
import Endpoint.Handler.Serve
import Endpoint.Http.Header
import Endpoint.Http.Query
import Endpoint.Http.Sink
import Endpoint.Http.Status
import Endpoint.Http.Uri
import Endpoint.Identity
import Endpoint.Json.Basic
import Endpoint.Json.Decoder
import Endpoint.Json.Overlay
import Endpoint.Json.Syntax
import Endpoint.Json.Text
import Endpoint.Log.Event
import Endpoint.Number.Binary64
import Endpoint.Number.Digits
import Endpoint.Number.Hexadecimal
import Endpoint.Number.Reading
import Endpoint.Param.Basic
import Endpoint.Param.Binding
import Endpoint.Pattern.Basic
import Endpoint.Pattern.Bracket
import Endpoint.Pattern.ByteSequence
import Endpoint.Pattern.CharClass
import Endpoint.Pattern.Escape
import Endpoint.Pattern.Meaning
import Endpoint.Pattern.Program
import Endpoint.Pattern.Property
import Endpoint.Pattern.Reader
import Endpoint.Pattern.Size
import Endpoint.Pattern.Spacing
import Endpoint.Pattern.Tree
import Endpoint.Proofs.Config.Assembly
import Endpoint.Proofs.Config.Facility
import Endpoint.Proofs.Config.HeaderLayers
import Endpoint.Proofs.Config.Layer
import Endpoint.Proofs.Config.Leaf
import Endpoint.Proofs.Config.Section
import Endpoint.Proofs.Config.StatusMessages
import Endpoint.Proofs.Config.Variable
import Endpoint.Proofs.Config.Written
import Endpoint.Proofs.Error.Catalogue
import Endpoint.Proofs.Except
import Endpoint.Proofs.Fault.Template
import Endpoint.Proofs.Field.Path
import Endpoint.Proofs.Field.Record
import Endpoint.Proofs.Field.Typing
import Endpoint.Proofs.Handler.Accounting
import Endpoint.Proofs.Handler.Authentication
import Endpoint.Proofs.Handler.BindingFaults
import Endpoint.Proofs.Handler.Body
import Endpoint.Proofs.Handler.Containment
import Endpoint.Proofs.Handler.FieldSources
import Endpoint.Proofs.Handler.Outcome
import Endpoint.Proofs.Handler.Recording
import Endpoint.Proofs.Handler.Reporting
import Endpoint.Proofs.Handler.Run
import Endpoint.Proofs.Handler.SettingHeaders
import Endpoint.Proofs.Handler.Stages
import Endpoint.Proofs.Handler.Targets
import Endpoint.Proofs.Http.Sink
import Endpoint.Proofs.Json.Decoding
import Endpoint.Proofs.Json.Entries
import Endpoint.Proofs.Json.Indentation
import Endpoint.Proofs.Json.Lexing
import Endpoint.Proofs.Json.Merging
import Endpoint.Proofs.Json.Numeral
import Endpoint.Proofs.Json.Overlay
import Endpoint.Proofs.Json.RoundTrip
import Endpoint.Proofs.List
import Endpoint.Proofs.Number.Integer
import Endpoint.Proofs.Number.Precisions
import Endpoint.Proofs.Number.Reading
import Endpoint.Proofs.Number.Rounding
import Endpoint.Proofs.Number.Shortest
import Endpoint.Proofs.Param.Accessors
import Endpoint.Proofs.Param.Attempt
import Endpoint.Proofs.Param.Binding
import Endpoint.Proofs.Param.Filing
import Endpoint.Proofs.Param.Values
import Endpoint.Proofs.Request.Attempts
import Endpoint.Proofs.Request.Binding
import Endpoint.Proofs.Response.Abnormal
import Endpoint.Proofs.Response.Commitment
import Endpoint.Proofs.Response.Concealment
import Endpoint.Proofs.Response.Grouping
import Endpoint.Proofs.Response.HeaderSources
import Endpoint.Proofs.Response.Headers
import Endpoint.Proofs.Response.Precedence
import Endpoint.Proofs.Response.Report
import Endpoint.Proofs.Response.Status
import Endpoint.Proofs.Rule.Acceptance
import Endpoint.Proofs.Rule.Bounds
import Endpoint.Proofs.Rule.BoundsToken
import Endpoint.Proofs.Rule.Codes
import Endpoint.Proofs.Rule.Collection
import Endpoint.Proofs.Rule.Evaluation
import Endpoint.Proofs.Rule.FloatLiteral
import Endpoint.Proofs.Rule.Grammar
import Endpoint.Proofs.Rule.Literal
import Endpoint.Proofs.Rule.Soundness
import Endpoint.Proofs.Telemetry.Directives
import Endpoint.Proofs.Telemetry.Measurement
import Endpoint.Proofs.Text.Case
import Endpoint.Proofs.Text.Split
import Endpoint.Proofs.Text.Utf8
import Endpoint.Proofs.Toml.Order
import Endpoint.Request.Basic
import Endpoint.Request.Binding
import Endpoint.Request.Body
import Endpoint.Request.Id
import Endpoint.Response.Basic
import Endpoint.Response.Form
import Endpoint.Response.Headers
import Endpoint.Response.StatusRule
import Endpoint.Response.Writer
import Endpoint.Rule.Basic
import Endpoint.Rule.Bounds
import Endpoint.Rule.Checker
import Endpoint.Rule.FieldValidator
import Endpoint.Rule.Literal
import Endpoint.Rule.Opcode
import Endpoint.Rule.Parser
import Endpoint.Rule.Validator
import Endpoint.Telemetry.Error
import Endpoint.Telemetry.Exposition
import Endpoint.Telemetry.Installation
import Endpoint.Telemetry.LogFilter
import Endpoint.Telemetry.LogLine
import Endpoint.Telemetry.LogSettings
import Endpoint.Telemetry.Measurement
import Endpoint.Telemetry.MetricsSettings
import Endpoint.Telemetry.SocketAddress
import Endpoint.Text.Blank
import Endpoint.Text.Diagnostic
import Endpoint.Text.Quoted
import Endpoint.Text.Utf8
import Endpoint.Toml.Document
import Endpoint.Toml.Number
import Endpoint.Toml.Table
import Endpoint.Toml.Text
import Endpoint.Unicode.Age
import Endpoint.Unicode.Alphanumeric
import Endpoint.Unicode.Case
import Endpoint.Unicode.Category
import Endpoint.Unicode.CharSet
import Endpoint.Unicode.Property
import Endpoint.Unicode.Script
import Endpoint.Unicode.ScriptExtension
import Endpoint.Unicode.Segmentation
