/-
Module: TaintFlow.CallGraph.Tables
Purpose: Call graphs with tables. Besides its nodes and edges in the order in which they were entered, the
  graph keeps what lookups ask for: the number of each activation, the nodes of each method, the set of
  edges, and with each node its edges and the targets of its call sites. Every operation brings all
  tables up to date.
Main exports: CallGraph.Entry, CallGraph.Tables, CallGraph.Tables.intern, CallGraph.Tables.addEdge,
  CallGraph.Tables.graph
-/
import TaintFlow.CallGraph.Basic
import TaintFlow.Ledger

namespace TaintFlow.CallGraph

/-- A node with the edges that leave it, the edges that enter it, and the nodes that each of its call sites
    may activate. -/
structure Entry where
  node : Node
  outEdges : List Edge := []
  inEdges : List Edge := []
  targets : Ledger CallSite NodeId := {}
deriving Repr, Inhabited

/-- A call graph and its tables. -/
structure Tables where
  entries : List Entry := []
  edges : List Edge := []
  entrypoints : List NodeId := []
  numbers : List ((Signature × Context) × NodeId) := []
  methods : Ledger Signature NodeId := {}
  edgeSet : List Edge := []
deriving Repr, Inhabited

namespace Tables

/-- The graph without its tables. -/
def graph (t : Tables) : CallGraph :=
  { nodes := t.entries.map Entry.node, edges := t.edges, entrypoints := t.entrypoints }

/-! ### Operations -/

/-- The node for a method in a context, made if there is none yet. -/
def intern (t : Tables) (m : Method) (c : Context) : Tables × NodeId :=
  match t.numbers.lookup (m.signature, c) with
  | some id => (t, id)
  | none =>
      let id := t.entries.length
      ({ t with
          entries := t.entries ++ [{ node := { id, method := m, context := c } }]
          numbers := t.numbers ++ [((m.signature, c), id)]
          methods := t.methods.push m.signature id }, id)

/-- Let activation start at a node. -/
def addEntrypoint (t : Tables) (id : NodeId) : Tables :=
  if t.entrypoints.contains id then t else { t with entrypoints := t.entrypoints ++ [id] }

/-- Enter an edge, unless it is there, and tell whether it is new. The caller gets an edge that leaves it,
    then the callee gets one that enters it, then the call site gets a target; caller and callee may be one
    node. -/
def addEdge (t : Tables) (e : Edge) : Tables × Bool :=
  if t.edgeSet.contains e then (t, false)
  else
    let left := t.entries.modify e.caller fun x => { x with outEdges := x.outEdges ++ [e] }
    let entered := left.modify e.callee fun x => { x with inEdges := x.inEdges ++ [e] }
    ({ t with
        edgeSet := e :: t.edgeSet
        edges := t.edges ++ [e]
        entries := entered.modify e.caller fun x =>
          { x with targets := x.targets.push e.site e.callee } }, true)

/-! ### Lookups -/

/-- What is recorded at a node; nothing, if there is no such node. -/
def recorded {α : Type} (t : Tables) (id : NodeId) (f : Entry → List α) : List α :=
  ((t.entries[id]?).map f).getD []

/-- The edges that leave a node. -/
def outEdges (t : Tables) (id : NodeId) : List Edge := t.recorded id Entry.outEdges

/-- The edges that enter a node. -/
def inEdges (t : Tables) (id : NodeId) : List Edge := t.recorded id Entry.inEdges

/-- The nodes that a call site of a node may activate. -/
def targets (t : Tables) (id : NodeId) (site : CallSite) : List NodeId :=
  t.recorded id fun x => x.targets.get site

/-- The nodes of a method. -/
def nodesFor (t : Tables) (s : Signature) : List Node :=
  (t.methods.get s).filterMap fun id => (t.entries[id]?).map Entry.node

/-- The nodes that may activate a node, each once. -/
def callers (t : Tables) (id : NodeId) : List NodeId := ((t.inEdges id).map Edge.caller).eraseDups

/-- The nodes that a node may activate, each once. -/
def callees (t : Tables) (id : NodeId) : List NodeId := ((t.outEdges id).map Edge.callee).eraseDups

/-- The call sites at which one node may activate another. -/
def sitesCalling (t : Tables) (caller callee : NodeId) : List CallSite :=
  ((t.outEdges caller).filter fun e => e.callee == callee).map Edge.site

end Tables

end TaintFlow.CallGraph
