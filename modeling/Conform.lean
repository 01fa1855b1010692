import Conform.Checks
import Conform.Compile.Compiler
import Conform.Compile.Emit
import Conform.Config
import Conform.Decimal.Parse
import Conform.Decimal.Shortest
import Conform.Error
import Conform.Json.Basic
import Conform.Json.Print
import Conform.Json.Read
import Conform.Json.Shape
import Conform.Message
import Conform.Mode
import Conform.Pattern.Basic
import Conform.Pattern.Class
import Conform.Pattern.Error
import Conform.Pattern.Footprint
import Conform.Pattern.Match
import Conform.Pattern.Normal
import Conform.Pattern.Property
import Conform.Pattern.Syntax
import Conform.Pattern.Utf8
import Conform.Record
import Conform.Registry
import Conform.Rule.Basic
import Conform.Rule.Builtin
import Conform.Rule.Descriptor
import Conform.Rule.Number
import Conform.Rule.Object
import Conform.Rule.Pipe
import Conform.Rule.Sample
import Conform.Rule.Sequence
import Conform.Rule.Text
import Conform.Run.Fragment
import Conform.Run.Scope
import Conform.Schema.Basic
import Conform.Schema.Document
import Conform.Schema.Render
import Conform.Schema.Shorthand
import Conform.Schema.Source
import Conform.Text.Age
import Conform.Text.Alpha
import Conform.Text.Basic
import Conform.Text.Binary
import Conform.Text.Blank
import Conform.Text.Case
import Conform.Text.Category
import Conform.Text.Printable
import Conform.Text.Ranges
import Conform.Text.Script
import Conform.Text.Segment
import Conform.Text.Unicode17
import Conform.Text.Word
import Conform.Validator
import Conform.Yaml.Config
import Conform.Yaml.Load
import Conform.Yaml.Parse
import Conform.Yaml.Read
import Conform.Yaml.Scan
import Conform.Proofs.Compilation
import Conform.Proofs.Flatten
import Conform.Proofs.Frame
import Conform.Proofs.Lockstep
import Conform.Proofs.Pipe
import Conform.Proofs.SyncChecks
import Conform.Proofs.Modes
import Conform.Proofs.Shorthand
import Conform.Proofs.SingleMode
import Conform.Proofs.Containers
import Conform.Proofs.SchemaData
import Conform.Proofs.Yields
import Conform.Proofs.Paths
import Conform.Proofs.Sizes
import Conform.Proofs.Reach
import Conform.Proofs.Faults
import Conform.Proofs.Table
import Conform.Proofs.Runs
import Conform.Proofs.ShorthandGrammar
import Conform.Proofs.Termination
import Conform.Proofs.Documents
import Conform.Proofs.Templates
import Conform.Proofs.RegistryMap
import Conform.Proofs.TextChecks
import Conform.Proofs.SharedScope
