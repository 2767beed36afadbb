/-
Module: TaintFlow.Solver.Solve
Purpose: Solving a program: visit every activation known so far, round after round, until a round adds
  neither a call edge nor a points-to fact. What can be added is bounded by the size of the program, and
  that bound is what the loop is measured by.
Main exports: Solver.Solution, Solver.solve
-/
import TaintFlow.Solver.Step

namespace TaintFlow.Solver

/-! ### The start -/

/-- The objects that the parameters of an entrypoint hold at the start: one of each reference parameter's
    type, and one of the declaring type as the receiver. -/
def seeds (m : Method) (id : NodeId) : List (Location × List AbstractObject) :=
  let offset := if m.isStatic then 0 else 1
  let parameters := m.signature.parameterTypes.zipIdx.filterMap fun p =>
    if isReference p.1 then some (.value id (p.2 + 1 + offset), [.ofType p.1]) else none
  let receiver := if m.isStatic then [] else [(.value id 1, [.ofType m.signature.owner])]
  parameters ++ receiver

/-- Let activation start at a method. -/
def State.start (σ : State) (m : Method) : State :=
  let (graph, id) := σ.graph.intern m .everywhere
  { σ with graph := graph.addEntrypoint id, heap := addAll σ.heap (seeds m id) }

/-- The state before the first round. -/
def initial (entries : List Method) : State := entries.foldl State.start {}

/-! ### Rounds -/

/-- Visit every activation that is known when the round begins. -/
def State.round (σ : State) (S : Setting) : State := σ.graph.nodes.foldl (fun σ n => σ.visit S n) σ

/-- The number of edges and points-to facts. A round that changes something makes it grow. -/
def State.size (σ : State) : Nat := σ.graph.edges.length + σ.heap.size

/-! ### How much there can be

Each count is taken over all methods that can be activated: those of the hierarchy and the entrypoints. -/

/-- The methods that can be activated. -/
def Setting.methods (S : Setting) (entries : List Method) : List Method :=
  entries ++ S.hierarchy.classes.flatMap ClassDecl.methods

/-- A count of something in each method, taken over some methods. -/
def total (count : Method → Nat) (methods : List Method) : Nat :=
  methods.foldr (fun m rest => count m + rest) 0

/-- The call sites of some methods. -/
def siteCount (methods : List Method) : Nat := total (fun m => m.code.sites.length) methods

/-- A bound on the objects: one for each allocation, each parameter, receiver and result. -/
def objectCount (methods : List Method) : Nat :=
  total (fun m => m.code.size + m.parameterCount + 1) methods

/-- A bound on the activations: each method in each context. -/
def nodeCount (methods : List Method) : Nat :=
  methods.length * (1 + siteCount methods + objectCount methods)

/-- A bound on the locations: values and results of activations, fields and elements of objects, and
    static fields. -/
def locationCount (methods : List Method) : Nat :=
  let instructions := total (fun m => m.code.size) methods
  nodeCount methods * (objectCount methods + 1) + objectCount methods * (instructions + 1) +
    instructions

/-- A bound on the edges and points-to facts. -/
def sizeLimit (methods : List Method) : Nat :=
  nodeCount methods * siteCount methods * nodeCount methods +
    locationCount methods * objectCount methods

/-! ### The loop -/

/-- A solved program: the call graph, the points-to map, the number of rounds it took and what was
    noticed on the way. -/
structure Solution where
  graph : CallGraph := {}
  heap : PointsTo := {}
  rounds : Nat := 0
  notices : List Notice := []
deriving Repr, Inhabited

/-- Go from round to round while they add something and there can be more. -/
def saturate (S : Setting) (limit : Nat) (σ : State) (rounds : Nat) : Solution :=
  let next := σ.round S
  if σ.size < next.size ∧ σ.size < limit then
    saturate S limit next (rounds + 1)
  else
    { graph := next.graph, heap := next.heap, rounds := rounds + 1, notices := next.notices }
termination_by limit - σ.size
decreasing_by
  change limit - next.size < limit - σ.size
  omega

/-- Solve a program from its entrypoints. -/
def solve (S : Setting) (entries : List Method) : Solution :=
  saturate S (sizeLimit (S.methods entries)) (initial entries) 0

end TaintFlow.Solver
