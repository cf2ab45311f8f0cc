import RequestBinding.Binding.Arguments
import RequestBinding.Binding.Body
import RequestBinding.Binding.Error
import RequestBinding.Binding.Run
import RequestBinding.Binding.Trace
import RequestBinding.CommandLine.Run
import RequestBinding.CommandLine.Usage
import RequestBinding.Decimal.Binary
import RequestBinding.Decimal.Integer
import RequestBinding.Decimal.Layout
import RequestBinding.Decimal.Literal
import RequestBinding.Decimal.Power
import RequestBinding.Decimal.Shortest
import RequestBinding.Files
import RequestBinding.Handler.Dispatcher
import RequestBinding.Handler.Read
import RequestBinding.Handler.Response
import RequestBinding.Json.Basic
import RequestBinding.Json.Cursor
import RequestBinding.Json.Printer
import RequestBinding.Json.Reader
import RequestBinding.Json.Shape
import RequestBinding.Json.Skip
import RequestBinding.Log.Config
import RequestBinding.Log.Event
import RequestBinding.Log.Filter
import RequestBinding.Main
import RequestBinding.Manifest.Build
import RequestBinding.Manifest.Document
import RequestBinding.Manifest.Entry
import RequestBinding.Manifest.Issue
import RequestBinding.Manifest.JsonForm
import RequestBinding.Manifest.Load
import RequestBinding.Manifest.PathPattern
import RequestBinding.Manifest.YamlForm
import RequestBinding.NameMap
import RequestBinding.Parameter
import RequestBinding.Pattern.Basic
import RequestBinding.Pattern.CharSet
import RequestBinding.Pattern.Class
import RequestBinding.Pattern.Grammar
import RequestBinding.Pattern.Reader
import RequestBinding.Pattern.Text
import RequestBinding.Pattern.Written
import RequestBinding.Proofs.Binding.Arguments
import RequestBinding.Proofs.Binding.Disclosure
import RequestBinding.Proofs.Binding.Failure
import RequestBinding.Proofs.Binding.Frame
import RequestBinding.Proofs.Binding.Independence
import RequestBinding.Proofs.Binding.Omission
import RequestBinding.Proofs.Binding.Outcome
import RequestBinding.Proofs.Binding.States
import RequestBinding.Proofs.Body.Calls
import RequestBinding.Proofs.Body.Cancellation
import RequestBinding.Proofs.Body.Integer
import RequestBinding.Proofs.Body.Reading
import RequestBinding.Proofs.Body.Validation
import RequestBinding.Proofs.CommandLine.Binding
import RequestBinding.Proofs.Decimal.Integer
import RequestBinding.Proofs.Decimal.Natural
import RequestBinding.Proofs.Decimal.Overflow
import RequestBinding.Proofs.Decimal.Rounding
import RequestBinding.Proofs.Decimal.Written
import RequestBinding.Proofs.Handler.Dispatching
import RequestBinding.Proofs.Handler.Headers
import RequestBinding.Proofs.Handler.Reading
import RequestBinding.Proofs.Json.Integer
import RequestBinding.Proofs.Manifest.Alike
import RequestBinding.Proofs.Manifest.Checked
import RequestBinding.Proofs.Manifest.Distinction
import RequestBinding.Proofs.Manifest.Issues
import RequestBinding.Proofs.Manifest.PathPattern
import RequestBinding.Proofs.Manifest.Resolution
import RequestBinding.Proofs.Manifest.Sharing
import RequestBinding.Proofs.Manifest.Validity
import RequestBinding.Proofs.Request.Building
import RequestBinding.Proofs.Request.CallerId
import RequestBinding.Proofs.Request.Encoding
import RequestBinding.Proofs.Request.Identity
import RequestBinding.Proofs.Request.Lookup
import RequestBinding.Proofs.Request.Server
import RequestBinding.Proofs.Request.Ulid
import RequestBinding.Proofs.Schema.Reference
import RequestBinding.Proofs.Service.Limit
import RequestBinding.Proofs.Service.Readiness
import RequestBinding.Proofs.Service.Starting
import RequestBinding.Proofs.Traversal
import RequestBinding.Request.Basic
import RequestBinding.Request.BodyStream
import RequestBinding.Request.Form
import RequestBinding.Request.Http
import RequestBinding.Request.Ulid
import RequestBinding.Schema.Assembly
import RequestBinding.Schema.Compiled
import RequestBinding.Schema.Document
import RequestBinding.Schema.Format
import RequestBinding.Schema.Metaschema
import RequestBinding.Schema.Pointer
import RequestBinding.Schema.Registry
import RequestBinding.Schema.Rules
import RequestBinding.Service.Basic
import RequestBinding.Service.Config
import RequestBinding.Service.Load
import RequestBinding.Text.Blank
import RequestBinding.Text.CaseFolding
import RequestBinding.Text.Category
import RequestBinding.Text.Category.Invisible
import RequestBinding.Text.Category.Letters
import RequestBinding.Text.Category.Marks
import RequestBinding.Text.Category.Signs
import RequestBinding.Text.CodeTable
import RequestBinding.Text.LetterCase
import RequestBinding.Text.Property
import RequestBinding.Text.Quoted
import RequestBinding.Text.Script
import RequestBinding.Text.Split
import RequestBinding.Text.Utf8
import RequestBinding.Uri.Basic
import RequestBinding.Uri.Host
import RequestBinding.Uri.Resolve
import RequestBinding.Value
import RequestBinding.Yaml.Lexer
import RequestBinding.Yaml.Node
import RequestBinding.Yaml.Property
import RequestBinding.Yaml.Resolve
import RequestBinding.Yaml.Scalar
import RequestBinding.Yaml.Scan
import RequestBinding.Yaml.Token
