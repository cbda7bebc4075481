import DocMachine.Act
import DocMachine.Arith
import DocMachine.Assertion
import DocMachine.Builtin
import DocMachine.Command
import DocMachine.Command.Ansi
import DocMachine.Command.Args
import DocMachine.Command.Help
import DocMachine.Command.Repl
import DocMachine.Command.Terminal
import DocMachine.Config
import DocMachine.Decimal.Binary
import DocMachine.Decimal.Fixed
import DocMachine.Decimal.Reader
import DocMachine.Decimal.Remainder
import DocMachine.Decimal.Shortest
import DocMachine.Fault
import DocMachine.FileTree
import DocMachine.FileTree.Path
import DocMachine.Flow
import DocMachine.Format.Fill
import DocMachine.Format.Spec
import DocMachine.Format.Template
import DocMachine.Hjson.Parser
import DocMachine.Json.Parser
import DocMachine.Json.Printer
import DocMachine.Json5.Parser
import DocMachine.Json5.Printer
import DocMachine.Machine
import DocMachine.Main
import DocMachine.Media
import DocMachine.Param
import DocMachine.Pattern
import DocMachine.Pattern.Class
import DocMachine.Pattern.Parser
import DocMachine.Pattern.Property
import DocMachine.Pattern.Size
import DocMachine.Procedure
import DocMachine.Provider.File
import DocMachine.Provider.Web
import DocMachine.Registry
import DocMachine.Resource
import DocMachine.Run
import DocMachine.Session
import DocMachine.Shuffle
import DocMachine.Standard
import DocMachine.Suite
import DocMachine.Table
import DocMachine.TestRun
import DocMachine.Text.Age
import DocMachine.Text.Blank
import DocMachine.Text.Case
import DocMachine.Text.Category
import DocMachine.Text.Cluster
import DocMachine.Text.CodeSet
import DocMachine.Text.CodeTable
import DocMachine.Text.Composed
import DocMachine.Text.Lines
import DocMachine.Text.Percent
import DocMachine.Text.Property
import DocMachine.Text.Quoted
import DocMachine.Text.Script
import DocMachine.Text.Segment
import DocMachine.Text.Utf8
import DocMachine.Toml.Parser
import DocMachine.Toml.Scalar
import DocMachine.Trace
import DocMachine.Url
import DocMachine.Url.Host
import DocMachine.Url.Label
import DocMachine.Url.Name
import DocMachine.Url.Replacement
import DocMachine.Value
import DocMachine.Value.Order
import DocMachine.Proofs.Acts
import DocMachine.Proofs.Facade
import DocMachine.Proofs.Invariant
import DocMachine.Proofs.Steps
import DocMachine.Proofs.Levels
import DocMachine.Proofs.Simulation
import DocMachine.Proofs.Story
import DocMachine.Proofs.Locality
import DocMachine.Proofs.Pending
import DocMachine.Proofs.Includes
import DocMachine.Proofs.Cycles
import DocMachine.Proofs.Inlining
import DocMachine.Proofs.Layers
import DocMachine.Proofs.Requests
import DocMachine.Proofs.Linked
import DocMachine.Proofs.Bytes
import DocMachine.Proofs.Blanks
import DocMachine.Proofs.Escapes
import DocMachine.Proofs.Written
import DocMachine.Proofs.Layouts
import DocMachine.Proofs.Typed
import DocMachine.Proofs.Places
import DocMachine.Proofs.AsciiUrls
import DocMachine.Proofs.Batch
import DocMachine.Proofs.Containment
import DocMachine.Proofs.Forward
import DocMachine.Proofs.Native
import DocMachine.Proofs.Reports
import DocMachine.Proofs.Retraced
import DocMachine.Proofs.Reported
import DocMachine.Proofs.Leftover
import DocMachine.Proofs.Refusal
import DocMachine.Proofs.Registration
import DocMachine.Proofs.Traced
import DocMachine.Proofs.Permuted
import DocMachine.Proofs.Rearranged
import DocMachine.Proofs.Matched
import DocMachine.Proofs.KeyOrder
import DocMachine.Proofs.Equality
import DocMachine.Proofs.Ordering
import DocMachine.Proofs.Nearest
import DocMachine.Proofs.WideIntegers
import DocMachine.Proofs.Interpolation
import DocMachine.Proofs.Specifiers
import DocMachine.Proofs.IntegerLayout
import DocMachine.Proofs.Padding
import DocMachine.Proofs.Capacity
import DocMachine.Proofs.Accessors
import DocMachine.Proofs.Packing
import DocMachine.Proofs.Reordering
import DocMachine.Proofs.Composites
import DocMachine.Proofs.WordArithmetic
import DocMachine.Proofs.Shortage
import DocMachine.Proofs.Variables
import DocMachine.Proofs.VariableNames
import DocMachine.Proofs.Providers
import DocMachine.Proofs.Remainder
import DocMachine.Proofs.Answers
import DocMachine.Proofs.Repetition
import DocMachine.Proofs.FilePaths
import DocMachine.Proofs.IntegerText
import DocMachine.Proofs.Partners
