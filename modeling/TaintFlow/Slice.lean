/-
Module: TaintFlow.Slice
Purpose: Forward slices. From a criterion one follows dependences such that a callee that was entered is
  left only to the call it was entered from: after going down into a callee one does not go up again,
  since summaries already lead over the call. Dependence through the heap forgets where one came from.
Main exports: DependenceGraph.slice, DependenceGraph.successorsFrom, DependenceGraph.sliceFrom, Slicer
-/
import TaintFlow.Dependence.Graph

namespace TaintFlow

/-- Whether a slice may still leave the activation it is in for its callers. -/
inductive Phase where
  | free
  | below
deriving DecidableEq, Repr, Inhabited

namespace DependenceGraph

/-- Where one gets from a statement in a phase by one dependence, if it may be followed. -/
def follow (l : Link) : Phase → Option (Statement × Phase)
  | .free => some (l.target, if l.kind.isDescending then .below else .free)
  | .below =>
      if l.kind.isAscending then none
      else some (l.target, if l.kind = .heap then .free else .below)

/-- Where one gets from a statement in a phase by one step. -/
def steps (S : DependenceGraph) (here : Statement × Phase) : List (Statement × Phase) :=
  (S.successors here.1).filterMap fun l => follow l here.2

/-- The statements a slice from a criterion can hold: the criterion, what directly depends on it, and
    the statements of all activations. -/
def domain (S : DependenceGraph) (criterion : Statement) : List Statement :=
  criterion :: (S.successors criterion).map Link.target ++ S.statements

/-- The forward slice from a criterion, in the order in which it is found. -/
def slice (S : DependenceGraph) (criterion : Statement) : List Statement :=
  let states := (S.domain criterion).flatMap fun s => [(s, .free), (s, .below)]
  ((Reach.explore S.steps states [(criterion, .free)]).map Prod.fst).eraseDups

/-- Is the instruction of a statement needed to find what depends on it? -/
def needsInstruction (o : Options) : Statement → Bool
  | .normal _ _ => o.enables .heap || o.enables .call
  | .actual _ _ _ => o.enables .param
  | _ => false

/-- All dependences that leave a statement and are followed. The instruction of the statement has to
    exist if it is needed to find them. -/
def successorsFrom (S : DependenceGraph) (s : Statement) : Except MissingInstruction (List Link) := do
  if needsInstruction S.options s then
    let _ ← S.graph.instructionOf s
  .ok (S.successors s)

/-- The forward slice from a criterion that has successors to start with. -/
def sliceFrom (S : DependenceGraph) (criterion : Statement) :
    Except MissingInstruction (List Statement) := do
  let _ ← S.successorsFrom criterion
  .ok (S.slice criterion)

end DependenceGraph

/-- A call graph and a points-to map, with the dependences that slices asked for so far. -/
structure Slicer where
  graph : CallGraph
  heap : PointsTo
  known : List (Options × DependenceGraph) := []
deriving Repr, Inhabited

namespace Slicer

/-- The dependences under some options, found once. -/
def dependences (s : Slicer) (o : Options) : Slicer × DependenceGraph :=
  match s.known.lookup o with
  | some S => (s, S)
  | none =>
      let S := DependenceGraph.ofGraph s.graph s.heap o
      ({ s with known := s.known ++ [(o, S)] }, S)

/-- The forward slice from a criterion under some options. -/
def slice (s : Slicer) (criterion : Statement) (o : Options) :
    Slicer × Except MissingInstruction (List Statement) :=
  let (s, S) := s.dependences o
  (s, S.sliceFrom criterion)

end Slicer

end TaintFlow
