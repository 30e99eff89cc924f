import Workplan.Catalog
import Workplan.CommandLine.Binding
import Workplan.CommandLine.Command
import Workplan.CommandLine.Grammar
import Workplan.CommandLine.Program
import Workplan.CommandLine.Report
import Workplan.CommandLine.Template
import Workplan.CommandUnit
import Workplan.Context
import Workplan.Contract
import Workplan.Descriptor
import Workplan.Digest.Blake3
import Workplan.Digest.Fingerprint
import Workplan.Files.Tree
import Workplan.Glob
import Workplan.Graph.Basic
import Workplan.Graph.Build
import Workplan.Graph.Levels
import Workplan.Journal.Basic
import Workplan.Journal.Codec
import Workplan.Journal.Stamp
import Workplan.Json.Basic
import Workplan.Json.Number
import Workplan.Json.Printer
import Workplan.Json.Reader
import Workplan.Main
import Workplan.Manifest.Basic
import Workplan.Manifest.Check
import Workplan.Manifest.Reader
import Workplan.Manifest.Units
import Workplan.Number.Binary64
import Workplan.Number.Shortest
import Workplan.Pattern.Automaton
import Workplan.Pattern.Basic
import Workplan.Pattern.CharClass
import Workplan.Pattern.Expr
import Workplan.Pattern.Named
import Workplan.Pattern.Reader
import Workplan.Plan
import Workplan.Proofs.Graph.Counters
import Workplan.Proofs.Graph.Levels
import Workplan.Proofs.Graph.Needed
import Workplan.Proofs.Graph.Providers
import Workplan.Proofs.Graph.Search
import Workplan.Proofs.Graph.Shape
import Workplan.Proofs.Plan.Growth
import Workplan.Proofs.Plan.Outcome
import Workplan.Proofs.Run.Accounts
import Workplan.Proofs.Run.Calls
import Workplan.Proofs.Run.Course
import Workplan.Proofs.Run.Merge
import Workplan.Proofs.Run.Trace
import Workplan.Proofs.Table
import Workplan.Proofs.Text.Order
import Workplan.Registry
import Workplan.Run.Basic
import Workplan.Run.Event
import Workplan.Script.Environment
import Workplan.Script.Output
import Workplan.Shell.Arithmetic
import Workplan.Shell.Basic
import Workplan.Shell.Braces
import Workplan.Shell.Builtins
import Workplan.Shell.Cursor
import Workplan.Shell.Escape
import Workplan.Shell.Eval
import Workplan.Shell.Fields
import Workplan.Shell.Format
import Workplan.Shell.Machine
import Workplan.Shell.Reader
import Workplan.Shell.Syntax
import Workplan.Shell.Test
import Workplan.Shell.TextTools
import Workplan.Shell.Tool
import Workplan.Shell.Tools
import Workplan.Shell.Wildcard
import Workplan.Step
import Workplan.StepState
import Workplan.Table
import Workplan.Text.Blank
import Workplan.Text.CaseFold
import Workplan.Text.Category
import Workplan.Text.CategoryTable
import Workplan.Text.Lines
import Workplan.Text.PropertyTable
import Workplan.Text.Quoted
import Workplan.Text.Ranges
import Workplan.Text.ScriptTable
import Workplan.Text.Utf8
import Workplan.TypeTag
import Workplan.Value
import Workplan.Verifier
import Workplan.WorkUnit
import Workplan.Yaml.Cursor
import Workplan.Yaml.Document
import Workplan.Yaml.Node
import Workplan.Yaml.Scalar
import Workplan.Yaml.Token
import Workplan.Proofs.Step
import Workplan.Proofs.Run.Supply
import Workplan.Proofs.Run.Provenance
import Workplan.Proofs.Run.Agreement
import Workplan.Proofs.Run.Events
import Workplan.Proofs.Run.Interleaving
import Workplan.Proofs.Run.PeerReads
import Workplan.Proofs.Run.FailureStates
import Workplan.Proofs.Run.OpenSteps
import Workplan.Proofs.Run.Containment
import Workplan.Proofs.Run.Policies
import Workplan.Proofs.Run.Noninterference
import Workplan.Proofs.Manifest.Check
import Workplan.Proofs.Manifest.Registration
import Workplan.Proofs.Manifest.Planning
import Workplan.Proofs.Files.Tree
import Workplan.Proofs.Text.Lines
import Workplan.Proofs.Text.Bytes
import Workplan.Proofs.Json.Number
import Workplan.Proofs.Json.Printer
import Workplan.Proofs.Json.RoundTrip
import Workplan.Proofs.Json.Brackets
import Workplan.Proofs.Journal.Codec
import Workplan.Proofs.Journal.Append
import Workplan.Proofs.Journal.Torn
import Workplan.Proofs.Journal.Bytes
import Workplan.Proofs.Graph.Chains
import Workplan.Proofs.Plan.Target
import Workplan.Proofs.Digest.Components
import Workplan.Proofs.Contract
import Workplan.Proofs.LifeCycle
import Workplan.Proofs.Run.FirstValues
import Workplan.Proofs.Graph.Listing
import Workplan.Proofs.Plan.Declarations
import Workplan.Proofs.Plan.Alone
import Workplan.Proofs.Json.Values
import Workplan.Proofs.Text.Blank
import Workplan.Proofs.Script.Environment
import Workplan.Proofs.Script.Outputs
import Workplan.Proofs.CommandLine.Binding
import Workplan.Proofs.Registry.History
import Workplan.Proofs.Graph.Turns
import Workplan.Proofs.Graph.Expansion
import Workplan.Proofs.Graph.Rounds
