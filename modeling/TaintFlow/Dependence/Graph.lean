/-
Module: TaintFlow.Dependence.Graph
Purpose: Dependence between the activations of a call graph. Stores lead to the loads that may read
  them, actual parameters to formal ones, calls to the entries of callees, and returned values to the
  calls that receive them. A summary leads from an actual parameter over its call to the call's result,
  when the callee passes that parameter on to what it returns; summaries are found round by round,
  since a callee may itself use summaries of its calls.
Main exports: DependenceGraph, DependenceGraph.ofGraph, DependenceGraph.successors
-/
import TaintFlow.Dependence.Procedure

namespace TaintFlow

/-- A load and the locations it may read. -/
structure Load where
  statement : Statement
  locations : List Location
deriving DecidableEq, Repr, Inhabited

/-- The dependences of a whole call graph. -/
structure DependenceGraph where
  graph : CallGraph
  heap : PointsTo
  options : Options := {}
  /-- The dependences inside each activation. -/
  procedures : List Procedure := []
  /-- The loads of all activations. -/
  loads : List Load := []
  /-- The actual parameters that lead over their call to its result. -/
  shortcuts : List Statement := []
  /-- The rounds it took to find those. -/
  rounds : Nat := 0
deriving Repr, Inhabited

namespace DependenceGraph

/-! ### The heap -/

/-- The locations that an access to a field or an array may touch. -/
def accessed (heap : PointsTo) (n : NodeId) : Instruction → List Location
  | .getField _ base f => fieldLocations base f
  | .putField base f _ => fieldLocations base f
  | .arrayLoad _ a _ => (heap.get (.value n a)).map .element
  | .arrayStore a _ _ => (heap.get (.value n a)).map .element
  | _ => []
where
  /-- The locations of a field, static if there is no base. -/
  fieldLocations (base : Option Value) (f : FieldRef) : List Location :=
    match base with
    | none => [.static f]
    | some v => (heap.get (.value n v)).map fun o => .field o f.name

/-- Does an instruction read a field or an array? -/
def isLoad : Instruction → Bool
  | .getField _ _ _ => true
  | .arrayLoad _ _ _ => true
  | _ => false

/-- Does an instruction write a field or an array? -/
def isStore : Instruction → Bool
  | .putField _ _ _ => true
  | .arrayStore _ _ _ => true
  | _ => false

/-- The loads of one activation. -/
def loadsOf (heap : PointsTo) (n : Node) : List Load :=
  n.indices.filterMap fun i : Nat =>
    match n.code[i]? with
    | some inst =>
        if isLoad inst then some { statement := .normal n.id i, locations := accessed heap n.id inst }
        else none
    | none => none

/-- The loads that may read what a statement stores. -/
def heapTargets (S : DependenceGraph) : Statement → List Statement
  | .normal n i =>
      match S.graph.instructionAt? n i with
      | some inst =>
          if isStore inst then
            ((accessed S.heap n inst).flatMap fun l =>
              (S.loads.filter fun r => r.locations.contains l).map Load.statement).eraseDups
          else []
      | none => []
  | _ => []

/-! ### Calls -/

/-- The activations that the call at `i` may cause; none for other instructions. -/
def callees (S : DependenceGraph) (n : NodeId) (i : Int) : List Node :=
  match (S.graph.instructionAt? n i).bind Instruction.site? with
  | some site => (S.graph.targets n site).filterMap S.graph.node?
  | none => []

/-- The results that an activation's returned value reaches. -/
def returnSites (S : DependenceGraph) (callee : NodeId) : List Statement :=
  (S.graph.inEdges callee).flatMap fun e =>
    match S.graph.node? e.caller with
    | some caller =>
        ((caller.code.callIndices e.site).filter caller.receivesResult).map fun i : Nat =>
          .result caller.id i
    | none => []

/-- The dependences inside an activation that leave a statement. -/
def linksFrom (S : DependenceGraph) (s : Statement) : List Link :=
  match S.procedures.find? fun p => p.node.id == s.node with
  | some p => p.linksFrom s
  | none => []

/-! ### Summaries -/

/-- The statements of the same activation that depend on a statement, calls being crossed by the given
    shortcuts. -/
def levelTargets (S : DependenceGraph) (shortcuts : List Statement) (s : Statement) : List Statement :=
  ((S.linksFrom s).filter fun l => S.options.enables l.kind).map Link.target ++
    shortcutTarget s ++
    (if S.options.enables .heap then (S.heapTargets s).filter fun t => t.node == s.node else [])
where
  /-- The result that a shortcut leads to. -/
  shortcutTarget (s : Statement) : List Statement :=
    match s with
    | .actual n i _ => if shortcuts.contains s then [.result n i] else []
    | _ => []

/-- Does the value that an activation returns depend on its parameter at a position, when calls are
    crossed by the given shortcuts? -/
def passes (S : DependenceGraph) (shortcuts : List Statement) (n : Node) (position : Nat) : Bool :=
  (Reach.explore (S.levelTargets shortcuts) n.statements [.formal n.id position]).contains
    (.returned n.id)

/-- The positions of the parameters that each activation passes on to what it returns. -/
def passing (S : DependenceGraph) (shortcuts : List Statement) : List (NodeId × List Nat) :=
  S.graph.nodes.filterMap fun n =>
    if n.method.hasBody && n.returnsValue then
      some (n.id, (List.range n.method.parameterCount).filter (S.passes shortcuts n))
    else none

/-- The actual parameters of calls that receive a result. -/
def candidates (S : DependenceGraph) : List Statement :=
  S.graph.nodes.flatMap fun n =>
    (n.indices.filter n.receivesResult).flatMap n.actualsAt

/-- Is an actual parameter passed on by some callee, given what the activations pass on? -/
def isPassed (S : DependenceGraph) (passing : List (NodeId × List Nat)) : Statement → Bool
  | .actual n i k =>
      (S.callees n i).any fun m =>
        ((passing.lookup m.id).getD []).any fun position => (position : Int) == k
  | _ => false

/-- The shortcuts that the given ones give rise to. -/
def refine (S : DependenceGraph) (shortcuts : List Statement) : List Statement :=
  let passing := S.passing shortcuts
  S.candidates.filter (S.isPassed passing)

/-- Find shortcuts round by round, until there are no more. -/
def closeSummaries (S : DependenceGraph) (shortcuts : List Statement) (rounds : Nat) :
    DependenceGraph :=
  let next := S.refine shortcuts
  if shortcuts.length < next.length ∧ shortcuts.length < S.candidates.length then
    closeSummaries S next (rounds + 1)
  else { S with shortcuts := next, rounds := rounds + 1 }
termination_by S.candidates.length - shortcuts.length
decreasing_by
  change S.candidates.length - next.length < _
  omega

/-! ### The whole -/

/-- The dependences of a call graph, as far as they are followed. -/
def ofGraph (graph : CallGraph) (heap : PointsTo) (options : Options) : DependenceGraph :=
  let S : DependenceGraph :=
    { graph, heap, options
      procedures := graph.nodes.map Procedure.ofNode
      loads := graph.nodes.flatMap (loadsOf heap) }
  if options.enables .summary then S.closeSummaries [] 0 else S

/-- All statements of all activations. -/
def statements (S : DependenceGraph) : List Statement := S.graph.nodes.flatMap Node.statements

/-- The dependences that leave a statement for another activation or lead over a call. -/
def callLinks (S : DependenceGraph) (s : Statement) : List Link :=
  match s with
  | .actual n i k =>
      (if S.options.enables .param then
        ((S.callees n i).filter fun m => k < m.method.parameterCount).map fun m =>
          ⟨s, .param, .formal m.id k⟩
      else []) ++
      (if S.options.enables .summary && S.shortcuts.contains s then
        [⟨s, .summary, .result n i⟩]
      else [])
  | .normal n i =>
      if S.options.enables .call then
        (S.callees n i).map fun m => ⟨s, .call, .entry m.id⟩
      else []
  | .returned n =>
      if S.options.enables .ret then
        (S.returnSites n).map fun t => ⟨s, .ret, t⟩
      else []
  | _ => []

/-- All dependences that leave a statement and are followed. -/
def successors (S : DependenceGraph) (s : Statement) : List Link :=
  ((S.linksFrom s).filter fun l => S.options.enables l.kind) ++
    (if S.options.enables .heap then (S.heapTargets s).map fun t => ⟨s, .heap, t⟩ else []) ++
    S.callLinks s

/-- One line about a dependence graph. -/
def summary (S : DependenceGraph) : String :=
  s!"SystemDependenceGraph({S.graph.nodes.length} nodes, data=" ++ S.options.data.name ++
    ", control=" ++ S.options.control.name ++ ")"

end DependenceGraph

end TaintFlow
