import TaintFlow.Breakdown
import TaintFlow.CallGraph.Basic
import TaintFlow.CallGraph.Report
import TaintFlow.CallGraph.Tables
import TaintFlow.Catalogue
import TaintFlow.Code
import TaintFlow.CommandLine.Arguments
import TaintFlow.CommandLine.Command
import TaintFlow.CommandLine.Help
import TaintFlow.Decimal.Binary64
import TaintFlow.Decimal.Shortest
import TaintFlow.Dependence.Graph
import TaintFlow.Dependence.Kind
import TaintFlow.Dependence.Procedure
import TaintFlow.Descriptor
import TaintFlow.Diagnostic
import TaintFlow.Dump.Fault
import TaintFlow.Dump.Form
import TaintFlow.Dump.Reader
import TaintFlow.Dump.Writer
import TaintFlow.Exclusion
import TaintFlow.File
import TaintFlow.File.Tree
import TaintFlow.Flow.ControlDependence
import TaintFlow.Flow.Marks
import TaintFlow.Flow.PostDominance
import TaintFlow.Flow.Table
import TaintFlow.Hierarchy.Basic
import TaintFlow.Hierarchy.Lookup
import TaintFlow.Instruction
import TaintFlow.Journal
import TaintFlow.Ledger
import TaintFlow.Main
import TaintFlow.Pattern.Basic
import TaintFlow.Pattern.CharSet
import TaintFlow.Pattern.CharTest
import TaintFlow.Pattern.Escape
import TaintFlow.Pattern.Fault
import TaintFlow.Pattern.Group
import TaintFlow.Pattern.Reader
import TaintFlow.Pattern.Search
import TaintFlow.Pattern.Step
import TaintFlow.Pattern.Token
import TaintFlow.PointsTo
import TaintFlow.Program
import TaintFlow.Proofs.CallGraph.Built
import TaintFlow.Proofs.CallGraph.Reachable
import TaintFlow.Proofs.CallGraph.Tables
import TaintFlow.Proofs.Code
import TaintFlow.Proofs.Dependence.Distinct
import TaintFlow.Proofs.Dependence.Entry
import TaintFlow.Proofs.Dependence.Heap
import TaintFlow.Proofs.Dependence.Links
import TaintFlow.Proofs.Dependence.Merge
import TaintFlow.Proofs.Dependence.Procedure
import TaintFlow.Proofs.Dependence.SameLevel
import TaintFlow.Proofs.Dependence.Summary
import TaintFlow.Proofs.DepthFirst
import TaintFlow.Proofs.Descriptor
import TaintFlow.Proofs.Distinct
import TaintFlow.Proofs.Dump.AttributeOrder
import TaintFlow.Proofs.Dump.Calls
import TaintFlow.Proofs.Dump.Formed
import TaintFlow.Proofs.Dump.RoundTrip
import TaintFlow.Proofs.Dump.WellFormed
import TaintFlow.Proofs.Flow.Arms
import TaintFlow.Proofs.Flow.Climb
import TaintFlow.Proofs.Flow.ControlDependence
import TaintFlow.Proofs.Flow.Governance
import TaintFlow.Proofs.Flow.PostDominance
import TaintFlow.Proofs.Flow.Ways
import TaintFlow.Proofs.Hierarchy.Agreement
import TaintFlow.Proofs.Hierarchy.Closure
import TaintFlow.Proofs.Hierarchy.Lookup
import TaintFlow.Proofs.Hierarchy.Nearest
import TaintFlow.Proofs.Hierarchy.Subtypes
import TaintFlow.Proofs.PointsTo
import TaintFlow.Proofs.ReversePostorder
import TaintFlow.Proofs.Search
import TaintFlow.Proofs.Slice.Anchored
import TaintFlow.Proofs.Slice.Options
import TaintFlow.Proofs.Slice.Projection
import TaintFlow.Proofs.Slice.Realizable
import TaintFlow.Proofs.Slice.Sweep
import TaintFlow.Proofs.Solver.Bound
import TaintFlow.Proofs.Solver.Constraints
import TaintFlow.Proofs.Solver.Contexts
import TaintFlow.Proofs.Solver.Dispatch
import TaintFlow.Proofs.Solver.Least
import TaintFlow.Proofs.Solver.Origin
import TaintFlow.Proofs.Solver.Projection
import TaintFlow.Proofs.Solver.Rounds
import TaintFlow.Proofs.Solver.Run
import TaintFlow.Proofs.Solver.Steps
import TaintFlow.Proofs.Solver.Visit
import TaintFlow.Proofs.Taint.CallSites
import TaintFlow.Proofs.Taint.Report
import TaintFlow.Proofs.Taint.Source
import TaintFlow.Proofs.Worklist
import TaintFlow.Reach
import TaintFlow.Scope
import TaintFlow.Sexp.Basic
import TaintFlow.Sexp.Numeral
import TaintFlow.Sexp.Reader
import TaintFlow.Sexp.Token
import TaintFlow.Signature
import TaintFlow.Slice
import TaintFlow.Solver.Algorithm
import TaintFlow.Solver.Solve
import TaintFlow.Solver.Step
import TaintFlow.Statement
import TaintFlow.Taint.CallSites
import TaintFlow.Taint.Criterion
import TaintFlow.Taint.Journal
import TaintFlow.Taint.Report
import TaintFlow.Taint.Run
import TaintFlow.Taint.Source
import TaintFlow.Text.Case
import TaintFlow.Text.CharName
import TaintFlow.Text.CharName.Alphabets
import TaintFlow.Text.CharName.Ancient
import TaintFlow.Text.CharName.Pictures
import TaintFlow.Text.CharName.Scripts
import TaintFlow.Text.CharName.Syllables
import TaintFlow.Text.CharName.Symbols
import TaintFlow.Text.Identifier
import TaintFlow.Text.Lines
import TaintFlow.Text.Numeral
import TaintFlow.Text.Printable
import TaintFlow.Text.Quoted
import TaintFlow.Text.Utf8
import TaintFlow.Text.Word
