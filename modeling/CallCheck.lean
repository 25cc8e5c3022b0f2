import CallCheck.Check
import CallCheck.Checked
import CallCheck.Codec
import CallCheck.CommandLine.Arguments
import CallCheck.CommandLine.Execution
import CallCheck.CommandLine.Program
import CallCheck.Config.Basic
import CallCheck.Config.File
import CallCheck.Discovery
import CallCheck.Extract
import CallCheck.Failure
import CallCheck.Fault
import CallCheck.File.Disk
import CallCheck.File.Fault
import CallCheck.File.Path
import CallCheck.Glob.Braces
import CallCheck.Glob.Pattern
import CallCheck.Glob.Walk
import CallCheck.Handle
import CallCheck.InputSchema
import CallCheck.Journal
import CallCheck.Json.Basic
import CallCheck.Json.Reader
import CallCheck.Json.Writer
import CallCheck.Main
import CallCheck.Metadata
import CallCheck.Number.Binary64
import CallCheck.Number.Shortest
import CallCheck.Playground
import CallCheck.Predicate.Basic
import CallCheck.Predicate.Descriptor
import CallCheck.Proofs.Check
import CallCheck.Proofs.Checked
import CallCheck.Proofs.Journal
import CallCheck.Regex.Class
import CallCheck.Regex.Expr
import CallCheck.Regex.Fault
import CallCheck.Regex.Reader
import CallCheck.Regex.Tree
import CallCheck.Registry
import CallCheck.Report
import CallCheck.Request
import CallCheck.Rule
import CallCheck.RuleFile.Basic
import CallCheck.RuleFile.Reader
import CallCheck.Runner
import CallCheck.Schema.Basic
import CallCheck.Schema.Meta
import CallCheck.Schema.Pointer
import CallCheck.Schema.Reader
import CallCheck.Schema.Validation
import CallCheck.Stub.Basic
import CallCheck.Stub.Session
import CallCheck.SuiteResult
import CallCheck.Target
import CallCheck.Text.Blank
import CallCheck.Text.Category
import CallCheck.Text.CharSet
import CallCheck.Text.Folding
import CallCheck.Text.Property
import CallCheck.Text.Quoted
import CallCheck.Text.Script
import CallCheck.Text.Search
import CallCheck.Yaml.Document
import CallCheck.Yaml.Event
import CallCheck.Yaml.Fault
import CallCheck.Yaml.Plain
import CallCheck.Yaml.Reading
import CallCheck.Yaml.Scalar
import CallCheck.Yaml.Source
import CallCheck.Yaml.Token
import CallCheck.Proofs.Declaration
import CallCheck.Proofs.Runner
import CallCheck.Proofs.Agreement
import CallCheck.Proofs.Blind
import CallCheck.Proofs.RuleFile
import CallCheck.Proofs.Suite
import CallCheck.Proofs.Masking
import CallCheck.Proofs.Reading
import CallCheck.Proofs.Registry
import CallCheck.Proofs.Accounts
import CallCheck.Proofs.Passing
import CallCheck.Proofs.News
import CallCheck.Proofs.Execution
import CallCheck.Proofs.Order
import CallCheck.Proofs.Compilation
import CallCheck.Proofs.Path
import CallCheck.Proofs.Disk
import CallCheck.Proofs.Walk
import CallCheck.Proofs.Resolution
import CallCheck.Proofs.Selection
import CallCheck.Proofs.Additions
import CallCheck.Proofs.Alike
import CallCheck.Proofs.Silence
import CallCheck.Proofs.Consultation
import CallCheck.Proofs.Uses
import CallCheck.Proofs.Layers
import CallCheck.Proofs.Settings
import CallCheck.Proofs.Reporting
import CallCheck.Proofs.Matching
import CallCheck.Proofs.Congruence
import CallCheck.Proofs.Rounding
import CallCheck.Proofs.Substrings
import CallCheck.Proofs.Spelling
import CallCheck.Proofs.Descriptor
import CallCheck.Proofs.Tools
import CallCheck.Proofs.Coherence
import CallCheck.Proofs.Fallback
import CallCheck.Proofs.Naming
import CallCheck.Proofs.Messages
import CallCheck.Proofs.Response
import CallCheck.Proofs.Braces
import CallCheck.Proofs.Pruning
import CallCheck.Proofs.Builtin
import CallCheck.Proofs.Summary
import CallCheck.Proofs.Truncation
