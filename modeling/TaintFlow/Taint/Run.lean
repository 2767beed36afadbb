/-
Module: TaintFlow.Taint.Run
Purpose: One analysis from the classes to the slices, stage by stage, with the outcome of every item of
  every stage. What becomes of the items that fail is decided afterwards, by the report.
Main exports: Taint.Config, Taint.Engine, Taint.Run, Taint.Run.make
-/
import TaintFlow.Scope
import TaintFlow.Slice
import TaintFlow.Solver.Solve
import TaintFlow.Taint.CallSites
import TaintFlow.Taint.Criterion
import TaintFlow.Taint.Source

namespace TaintFlow.Taint

/-- What happens when an item of a stage fails: the analysis ends, or the failure is recorded and the
    analysis goes on. -/
inductive Policy where
  | abort
  | isolate
deriving DecidableEq, Repr, Inhabited

namespace Policy

/-- Every policy. -/
def all : List Policy := [.abort, .isolate]

/-- The name of a policy. -/
def name : Policy → String
  | .abort => "abort"
  | .isolate => "isolate"

/-- The policy of a given name. -/
def ofName? (s : String) : Option Policy := all.find? fun p => p.name == s

end Policy

/-- What an analysis is asked to do. -/
structure Config where
  algorithm : Algorithm := .plain
  sources : List SourcePattern := SourcePattern.standard
  options : Options := {}
  policy : Policy := .abort
deriving Repr, Inhabited

/-! ### Engines -/

/-- Why a call graph could not be built: the engine broke down, or it reported a failure itself. -/
inductive EngineFault where
  | crashed (algorithm : Algorithm) (reason : String)
  | reported (message : String) (subject : Option String)
deriving DecidableEq, Repr, Inhabited

/-- A fault as it is shown. -/
def EngineFault.diagnostic : EngineFault → Diagnostic
  | .crashed algorithm reason =>
      { kind := .engine
        message := "call graph construction failed: " ++ reason
        subject := some algorithm.name }
  | .reported message subject => { kind := .engine, message, subject }

/-- What builds call graphs. -/
abbrev Engine := Solver.Setting → List Method → Except EngineFault Solver.Solution

/-- The engine that solves the program. -/
def Engine.standard : Engine := fun setting entries => .ok (Solver.solve setting entries)

/-! ### Items -/

/-- The methods found for one source pattern, in the order of their texts. -/
structure Finding where
  pattern : SourcePattern
  outcome : Except Hierarchy.Unresolved (List Signature)
deriving Repr, Inhabited

/-- The calls of a source found in one caller. -/
structure Search where
  source : Signature
  caller : Node
  outcome : Except SearchFault (List Statement)
deriving Repr, Inhabited

/-- A call of a source. -/
structure SiteRecord where
  source : Signature
  statement : Statement
deriving DecidableEq, Repr, Inhabited

/-- The criterion for a call of a source. -/
structure Derivation where
  record : SiteRecord
  outcome : Except VoidReturn Statement
deriving Repr, Inhabited

/-- The slice from one criterion, in the order of statements. -/
structure SliceRecord where
  source : Signature
  site : Statement
  criterion : Statement
  statements : List Statement
deriving DecidableEq, Repr, Inhabited

/-! ### Stages -/

/-- The methods that a source pattern describes. -/
def find (h : Hierarchy) (en : Enumeration) (p : SourcePattern) : Finding :=
  { pattern := p
    outcome := (h.implementors en p).map fun found => found.mergeSort fun a b => a.text ≤ b.text }

/-- The methods found, each once. -/
def foundSources (findings : List Finding) : List Signature :=
  (findings.flatMap fun f => f.outcome.toOption.getD []).eraseDups

/-- The sources that the application calls, with the callers in the order of their numbers. -/
def callersOf (g : CallGraph) (sources : List Signature) : List (Signature × List Node) :=
  sources.filterMap fun s =>
    let callers := g.applicationCallers s
    if callers.isEmpty then none else some (s, callers.mergeSort fun a b => a.id ≤ b.id)

/-- Look for the calls of the sources in their callers. -/
def search (callers : List (Signature × List Node)) : List Search :=
  callers.flatMap fun row =>
    row.2.map fun n => { source := row.1, caller := n, outcome := n.callSites row.1 }

/-- The calls found. -/
def foundSites (searches : List Search) : List SiteRecord :=
  searches.flatMap fun s =>
    (s.outcome.toOption.getD []).map fun statement => { source := s.source, statement }

/-- The criterion for a call. -/
def derive (g : CallGraph) (r : SiteRecord) : Derivation :=
  { record := r, outcome := criterion g (g.instruction? r.statement) r.statement }

/-- The slice for a call, if there is a criterion. -/
def sliceFor (S : DependenceGraph) (d : Derivation) : Option SliceRecord :=
  match d.outcome with
  | .ok c => some
      { source := d.record.source
        site := d.record.statement
        criterion := c
        statements := (S.slice c).mergeSort Statement.le }
  | .error _ => none

/-- An analysis with the outcomes of its stages. -/
structure Run where
  config : Config
  hierarchy : Hierarchy
  entries : List Method
  solution : Except EngineFault Solver.Solution
  findings : List Finding
  callers : List (Signature × List Node)
  searches : List Search
  derivations : List Derivation
  dependences : DependenceGraph
  slices : List SliceRecord
deriving Inhabited

/-- Analyse what is in scope, with sets of types enumerated in a given order. -/
def Run.make (config : Config) (scope : Scope) (engine : Engine) (en : Enumeration) : Run :=
  let hierarchy := Hierarchy.ofProgram scope.program scope.exclusions
  let entries := hierarchy.mains
  let solution := engine { hierarchy, algorithm := config.algorithm, enumeration := en } entries
  let solved := solution.toOption.getD {}
  let findings := config.sources.map (find hierarchy en)
  let callers := callersOf solved.graph (foundSources findings)
  let searches := search callers
  let derivations := (foundSites searches).map (derive solved.graph)
  let dependences := DependenceGraph.ofGraph solved.graph solved.heap config.options
  { config, hierarchy, entries, solution, findings, callers, searches, derivations, dependences
    slices := derivations.filterMap (sliceFor dependences) }

end TaintFlow.Taint
