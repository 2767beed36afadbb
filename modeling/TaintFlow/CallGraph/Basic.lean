/-
Module: TaintFlow.CallGraph.Basic
Purpose: Call graphs. A node is an activation of a method in a context; nodes are numbered in the order
  in which they are made, and there is one for each method and context. An edge tells that a call site
  of one node may activate another.
Main exports: Context, Node, Edge, CallGraph, CallGraph.intern, CallGraph.addEdge
-/
import TaintFlow.PointsTo
import TaintFlow.Program
import TaintFlow.Reach

namespace TaintFlow

/-- What distinguishes the activations of a method: nothing, the call it was activated by, or the
    object it was called on. -/
inductive Context where
  | everywhere
  | callSite (caller : Signature) (pc : Int)
  | receiver (object : AbstractObject)
deriving DecidableEq, Repr, Inhabited

/-- The text of a context. -/
def Context.text : Context → String
  | .everywhere => "Everywhere"
  | .callSite caller pc => caller.text ++ "@" ++ toString pc
  | .receiver object => "receiver " ++ object.text

/-- An activation of a method in a context. -/
structure Node where
  id : NodeId
  method : Method
  context : Context := .everywhere
deriving Repr, Inhabited

namespace Node

/-- The signature of the activated method. -/
def signature (n : Node) : Signature := n.method.signature

/-- The instructions that the activation runs. -/
def code (n : Node) : Code := n.method.code

/-- A name for the node that does not depend on its number. -/
def label (n : Node) : String := n.signature.text ++ " | " ++ n.context.text

/-- One line about a node. -/
def summary (n : Node) : String :=
  s!"CallGraphNode({n.id}, " ++ n.signature.text ++ ", " ++ n.context.text ++ ")"

end Node

/-- A call site of one node may activate another node. -/
structure Edge where
  caller : NodeId
  site : CallSite
  callee : NodeId
deriving DecidableEq, Repr, Inhabited

/-- One line about an edge. -/
def Edge.summary (e : Edge) : String :=
  s!"CallGraphEdge({e.caller} -> {e.callee}, " ++ e.site.target.name ++ s!"@{e.site.pc})"

/-- Nodes and edges in the order in which they were entered, and the nodes where activation starts. -/
structure CallGraph where
  nodes : List Node := []
  edges : List Edge := []
  entrypoints : List NodeId := []
deriving Repr, Inhabited

namespace CallGraph

/-- The node of a number. -/
def node? (g : CallGraph) (id : NodeId) : Option Node := g.nodes.find? fun n => n.id == id

/-- The node for a method in a context. -/
def find? (g : CallGraph) (s : Signature) (c : Context) : Option Node :=
  g.nodes.find? fun n => n.signature == s && n.context == c

/-- The node for a method in a context, made if there is none yet. -/
def intern (g : CallGraph) (m : Method) (c : Context) : CallGraph × NodeId :=
  match g.find? m.signature c with
  | some n => (g, n.id)
  | none =>
      let id := g.nodes.length
      ({ g with nodes := g.nodes ++ [{ id, method := m, context := c }] }, id)

/-- Let activation start at a node. -/
def addEntrypoint (g : CallGraph) (id : NodeId) : CallGraph :=
  if g.entrypoints.contains id then g else { g with entrypoints := g.entrypoints ++ [id] }

/-- Enter an edge, unless it is there. -/
def addEdge (g : CallGraph) (e : Edge) : CallGraph :=
  if g.edges.contains e then g else { g with edges := g.edges ++ [e] }

/-- The nodes of a method. -/
def nodesFor (g : CallGraph) (s : Signature) : List Node :=
  g.nodes.filter fun n => n.signature == s

/-- The edges that leave a node. -/
def outEdges (g : CallGraph) (id : NodeId) : List Edge := g.edges.filter fun e => e.caller == id

/-- The edges that enter a node. -/
def inEdges (g : CallGraph) (id : NodeId) : List Edge := g.edges.filter fun e => e.callee == id

/-- The nodes that a call site of a node may activate. -/
def targets (g : CallGraph) (id : NodeId) (site : CallSite) : List NodeId :=
  ((g.outEdges id).filter fun e => e.site == site).map Edge.callee

/-- The nodes that may activate a node, each once. -/
def callers (g : CallGraph) (id : NodeId) : List NodeId :=
  ((g.inEdges id).map Edge.caller).eraseDups

/-- The nodes that a node may activate, each once. -/
def callees (g : CallGraph) (id : NodeId) : List NodeId :=
  ((g.outEdges id).map Edge.callee).eraseDups

/-- The call sites at which one node may activate another. -/
def sitesCalling (g : CallGraph) (caller callee : NodeId) : List CallSite :=
  ((g.outEdges caller).filter fun e => e.callee == callee).map Edge.site

/-- The numbers of all nodes. -/
def ids (g : CallGraph) : List NodeId := g.nodes.map Node.id

/-- The nodes that a node may activate, directly or not, without the node itself. -/
def transitiveCallees (g : CallGraph) (id : NodeId) : List NodeId :=
  Reach.without id (Reach.explore g.callees g.ids [id])

/-- The nodes where activation starts and all that they may activate. -/
def reachable (g : CallGraph) : List NodeId := Reach.explore g.callees g.ids g.entrypoints

/-- One line about a call graph. -/
def summary (g : CallGraph) : String :=
  s!"CallGraph(nodes={g.nodes.length}, edges={g.edges.length})"

end CallGraph

end TaintFlow
