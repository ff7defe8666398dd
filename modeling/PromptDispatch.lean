import PromptDispatch.Agent.Kind
import PromptDispatch.Agent.Output
import PromptDispatch.Agent.Records
import PromptDispatch.Agent.Resolver
import PromptDispatch.Arguments.Grammar
import PromptDispatch.Arguments.Level
import PromptDispatch.Arguments.Request
import PromptDispatch.Arguments.Value
import PromptDispatch.Config
import PromptDispatch.Config.Reader
import PromptDispatch.Config.Selection
import PromptDispatch.Config.Writer
import PromptDispatch.Decimal.Binary64
import PromptDispatch.Decimal.Layout
import PromptDispatch.Decimal.Shortest
import PromptDispatch.Dict
import PromptDispatch.Dict.Entries
import PromptDispatch.Failure
import PromptDispatch.Failure.System
import PromptDispatch.Invocation.Child
import PromptDispatch.Invocation.CommandLine
import PromptDispatch.Invocation.Context
import PromptDispatch.Invocation.Dispatch
import PromptDispatch.Invocation.Environment
import PromptDispatch.Invocation.Launch
import PromptDispatch.Json.Grammar
import PromptDispatch.Json.Numeral
import PromptDispatch.Json.Printer
import PromptDispatch.Json.Reader
import PromptDispatch.Json.Record
import PromptDispatch.Json.Typed
import PromptDispatch.Json.Value
import PromptDispatch.Machine
import PromptDispatch.Machine.Escapes
import PromptDispatch.Machine.Files
import PromptDispatch.Machine.Outside
import PromptDispatch.Machine.Pattern
import PromptDispatch.Machine.Printf
import PromptDispatch.Machine.Shell.Arithmetic
import PromptDispatch.Machine.Shell.Condition
import PromptDispatch.Machine.Shell.Reader
import PromptDispatch.Machine.Shell.Run
import PromptDispatch.Machine.Shell.State
import PromptDispatch.Machine.Shell.Syntax
import PromptDispatch.Machine.Tool
import PromptDispatch.Main
import PromptDispatch.Process.Status
import PromptDispatch.Program
import PromptDispatch.Program.Commands
import PromptDispatch.Program.Log
import PromptDispatch.Program.Outside
import PromptDispatch.Proofs.Agent.Cleaning
import PromptDispatch.Proofs.Agent.Notices
import PromptDispatch.Proofs.Agent.Records
import PromptDispatch.Proofs.Agent.Resolution
import PromptDispatch.Proofs.Agent.Results
import PromptDispatch.Proofs.Agent.Streams
import PromptDispatch.Proofs.Arguments.Faults
import PromptDispatch.Proofs.Arguments.Paths
import PromptDispatch.Proofs.Arguments.Reading
import PromptDispatch.Proofs.Arguments.Refusals
import PromptDispatch.Proofs.Arguments.Seconds
import PromptDispatch.Proofs.Arguments.Settings
import PromptDispatch.Proofs.Config.Declarations
import PromptDispatch.Proofs.Config.Faults
import PromptDispatch.Proofs.Config.RoundTrip
import PromptDispatch.Proofs.Config.Use
import PromptDispatch.Proofs.Config.Validity
import PromptDispatch.Proofs.Decimal.Rounding
import PromptDispatch.Proofs.Decimal.Shortest
import PromptDispatch.Proofs.Dict.Entries
import PromptDispatch.Proofs.Invocation.Cancellation
import PromptDispatch.Proofs.Invocation.CommandLine
import PromptDispatch.Proofs.Invocation.Courses
import PromptDispatch.Proofs.Invocation.Deadlines
import PromptDispatch.Proofs.Invocation.Effects
import PromptDispatch.Proofs.Invocation.Environment
import PromptDispatch.Proofs.Invocation.Launch
import PromptDispatch.Proofs.Invocation.Merge
import PromptDispatch.Proofs.Invocation.Noninterference
import PromptDispatch.Proofs.Invocation.Results
import PromptDispatch.Proofs.Invocation.Supervision
import PromptDispatch.Proofs.Invocation.Wait
import PromptDispatch.Proofs.Json.Between
import PromptDispatch.Proofs.Json.Nested
import PromptDispatch.Proofs.Json.Object
import PromptDispatch.Proofs.Json.Printed
import PromptDispatch.Proofs.Json.Reads
import PromptDispatch.Proofs.Json.Record
import PromptDispatch.Proofs.Json.Tokens
import PromptDispatch.Proofs.Program.Checking
import PromptDispatch.Proofs.Program.Courses
import PromptDispatch.Proofs.Program.ExitCodes
import PromptDispatch.Proofs.Program.Failures
import PromptDispatch.Proofs.Program.FixedPoints
import PromptDispatch.Proofs.Program.Jobs
import PromptDispatch.Proofs.Program.Refusals
import PromptDispatch.Proofs.Program.Variables
import PromptDispatch.Proofs.Program.Writing
import PromptDispatch.Proofs.Schema.Acceptance
import PromptDispatch.Proofs.Schema.Extraction
import PromptDispatch.Proofs.Schema.Faults
import PromptDispatch.Proofs.Schema.FieldTexts
import PromptDispatch.Proofs.Schema.Occurrence
import PromptDispatch.Proofs.Schema.Problems
import PromptDispatch.Proofs.Schema.Registration
import PromptDispatch.Proofs.Schema.Rendering
import PromptDispatch.Proofs.Schema.Review
import PromptDispatch.Proofs.Schema.Slices
import PromptDispatch.Proofs.Schema.Slot
import PromptDispatch.Proofs.Schema.Validation
import PromptDispatch.Proofs.Text.Lines
import PromptDispatch.Proofs.Text.Offsets
import PromptDispatch.Proofs.Text.Places
import PromptDispatch.Proofs.Text.Search
import PromptDispatch.Proofs.Text.Trim
import PromptDispatch.Proofs.Text.Utf8
import PromptDispatch.Proofs.Words.Quoting
import PromptDispatch.Proofs.Yaml.Number
import PromptDispatch.Proofs.Yaml.Value
import PromptDispatch.Schema.Descriptor
import PromptDispatch.Schema.Extraction
import PromptDispatch.Schema.FieldSpec
import PromptDispatch.Schema.FieldType
import PromptDispatch.Schema.JsonSchema
import PromptDispatch.Schema.Problem
import PromptDispatch.Schema.Registry
import PromptDispatch.Schema.Review
import PromptDispatch.Text.Blank
import PromptDispatch.Text.Lines
import PromptDispatch.Text.Printable
import PromptDispatch.Text.Quoted
import PromptDispatch.Text.Search
import PromptDispatch.Text.Utf8
import PromptDispatch.Timeout
import PromptDispatch.Words.Quote
import PromptDispatch.Words.Split
import PromptDispatch.Yaml.Cursor
import PromptDispatch.Yaml.Document
import PromptDispatch.Yaml.Node
import PromptDispatch.Yaml.Printer
import PromptDispatch.Yaml.Scalar
import PromptDispatch.Yaml.Style
import PromptDispatch.Yaml.Token
import PromptDispatch.Yaml.Token.Block
import PromptDispatch.Yaml.Token.Folding
import PromptDispatch.Yaml.Token.Lexer
import PromptDispatch.Yaml.Token.Plain
import PromptDispatch.Yaml.Token.Property
import PromptDispatch.Yaml.Token.Quoted
import PromptDispatch.Yaml.Typed
import PromptDispatch.Yaml.Value
