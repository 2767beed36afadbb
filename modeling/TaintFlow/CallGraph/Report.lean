/-
Module: TaintFlow.CallGraph.Report
Purpose: Call graphs for the reader: counts, a summary, and a drawing in the DOT language in which the
  application, its libraries and the entrypoints look different.
Main exports: CallGraph.Statistics, CallGraph.statistics, CallGraph.overview, CallGraph.dot
-/
import TaintFlow.CallGraph.Basic

namespace TaintFlow.CallGraph

/-- Counts of a call graph. -/
structure Statistics where
  nodes : Nat
  applicationNodes : Nat
  libraryNodes : Nat
  methods : Nat
  edges : Nat
  entrypoints : Nat
deriving DecidableEq, Repr, Inhabited

/-- The counts of a call graph. -/
def statistics (g : CallGraph) : Statistics :=
  let application := (g.nodes.filter fun n => n.method.isApplication).length
  { nodes := g.nodes.length
    applicationNodes := application
    libraryNodes := g.nodes.length - application
    methods := (g.nodes.map Node.signature).eraseDups.length
    edges := g.edges.length
    entrypoints := g.entrypoints.length }

/-- The counts, one on each line. -/
def overview (g : CallGraph) : String :=
  let s := g.statistics
  String.intercalate "\n"
    ["Call Graph Summary",
     s!"  Nodes:             {s.nodes}",
     s!"  Application nodes: {s.applicationNodes}",
     s!"  Library nodes:     {s.libraryNodes}",
     s!"  Distinct methods:  {s.methods}",
     s!"  Edges:             {s.edges}",
     s!"  Entrypoints:       {s.entrypoints}"]

/-- The label of a node in a drawing: its method, and its context on a second line unless it is the
    only one. Double quotes are escaped. -/
def dotLabel (n : Node) : String :=
  let text := match n.context with
    | .everywhere => n.signature.text
    | c => n.signature.text ++ "\\n[" ++ c.text ++ "]"
  String.ofList (text.toList.flatMap fun c => if c = '"' then ['\\', '"'] else [c])

/-- The attributes of a node in a drawing. -/
def dotAttributes (g : CallGraph) (n : Node) : String :=
  if g.entrypoints.contains n.id then "style=filled, fillcolor=\"#ccffcc\", shape=invhouse"
  else if n.method.isApplication then "style=filled, fillcolor=\"#ddeeff\""
  else "style=filled, fillcolor=\"#fff3cd\", shape=ellipse"

/-- A drawing of a call graph, under a title unless that is empty. -/
def dot (g : CallGraph) (title : String) : String :=
  let head := ["digraph CallGraph \x7b", "  rankdir=TB;"]
  let label := if title = "" then [] else ["  label=\"" ++ title ++ "\";"]
  let style := ["  node [shape=box, fontname=\"Helvetica\", fontsize=10];"]
  let nodes := g.nodes.map fun n =>
    s!"  \"{n.id}\" [label=\"" ++ dotLabel n ++ "\", " ++ g.dotAttributes n ++ "];"
  let edges := g.edges.map fun e =>
    s!"  \"{e.caller}\" -> \"{e.callee}\" [label=\"" ++ e.site.kind.name ++ s!"@{e.site.pc}\"];"
  String.intercalate "\n" (head ++ label ++ style ++ nodes ++ edges ++ ["\x7d"])

end TaintFlow.CallGraph
