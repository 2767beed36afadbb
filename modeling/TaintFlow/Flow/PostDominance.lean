/-
Module: TaintFlow.Flow.PostDominance
Purpose: Post-dominators of a body. A point post-dominates another if every way from there to the exit
  leads through it. A table names for each point the nearest point above it that is known so far. The
  points that lead to the exit are visited again and again, in reverse postorder from the exit: the
  point above a visited one becomes the point where the climbs from its successors meet. When a pass
  changes nothing, the table holds the immediate post-dominators.
Main exports: Code.backwardOrder, Flow.PostDominators, Flow.PostDominators.settle, Code.postDominators
-/
import TaintFlow.Code
import TaintFlow.Flow.Marks
import TaintFlow.Flow.Table
import TaintFlow.Reach

namespace TaintFlow

namespace Code

/-- The points of a body as a set. -/
def allPoints (code : Code) : Flow.Marks := .below (code.exit + 1)

/-- The predecessors of every point, tabulated. -/
def predecessorTable (code : Code) : Flow.Table (List Nat) :=
  Flow.Table.tabulate (code.exit + 1) code.predecessors

/-- Reverse postorder of the points that lead to the exit, walking back from it. -/
def backwardOrder (code : Code) : List Nat :=
  Reach.reversePostorder code.predecessorTable.get code.points code.exit

end Code

namespace Flow

/-- The post-dominators of the points of a body, as far as they are known. -/
structure PostDominators where
  /-- For each point the nearest of its post-dominators, if one is known. -/
  nearest : Array (Option Nat)
deriving DecidableEq, Repr, Inhabited

namespace PostDominators

/-- The immediate post-dominator of a point, if it is known. -/
def immediate? (d : PostDominators) (a : Nat) : Option Nat := d.nearest[a]?.getD none

/-- Is the immediate post-dominator of a point known? -/
def knows (d : PostDominators) (a : Nat) : Bool := (d.immediate? a).isSome

/-- Let `p` be the immediate post-dominator of `a`. -/
def assign (d : PostDominators) (a p : Nat) : PostDominators :=
  ⟨d.nearest.setIfInBounds a (some p)⟩

/-- Only the exit is known, and it is its own. -/
def rooted (exit : Nat) : PostDominators :=
  assign ⟨Array.replicate (exit + 1) none⟩ exit exit

/-- All immediate post-dominators, in ascending order of the points. -/
def immediate (d : PostDominators) : List (Nat × Nat) :=
  (List.range d.nearest.size).filterMap fun a => (d.immediate? a).map fun p => (a, p)

section

variable (rank : Nat → Nat)

/-- One step up from `a`. Climbs lead to lower ranks, so they end. -/
def above? (d : PostDominators) (a : Nat) : Option { p : Nat // rank p < rank a } :=
  match d.immediate? a with
  | some p => if h : rank p < rank a then some ⟨p, h⟩ else none
  | none => none

/-- The point where the climbs from `a` and `b` meet: the one of higher rank goes up until both are at
    the same point. -/
def meet (d : PostDominators) (a b : Nat) : Nat :=
  if a = b then a
  else if rank b < rank a then
    match d.above? rank a with
    | some p => meet d p.1 b
    | none => b
  else
    match d.above? rank b with
    | some p => meet d a p.1
    | none => a
termination_by rank a + rank b
decreasing_by
  · exact Nat.add_lt_add_right p.2 _
  · exact Nat.add_lt_add_left p.2 _

/-- The point where the climbs from several points meet, if there is any point to climb from. -/
def meetAll? (d : PostDominators) : List Nat → Option Nat
  | [] => none
  | a :: as => some (as.foldl (d.meet rank) a)

/-- Find the immediate post-dominator of `a` anew, from those of its successors that are known. -/
def revise (next : Nat → List Nat) (d : PostDominators) (a : Nat) : PostDominators :=
  match d.meetAll? rank ((next a).filter d.knows) with
  | some p => d.assign a p
  | none => d

/-- Revise points one after the other. -/
def pass (next : Nat → List Nat) (order : List Nat) (d : PostDominators) : PostDominators :=
  order.foldl (revise rank next) d

/-- How far a point can still rise: the rank of the point above it, or `top` if that is not known. -/
def height (top : Nat) (d : PostDominators) (a : Nat) : Nat := ((d.immediate? a).map rank).getD top

/-- How far points can still rise, taken together. -/
def weight (top : Nat) (d : PostDominators) : List Nat → Nat
  | [] => 0
  | a :: order => d.height rank top a + weight top d order

/-- Pass over the points until none rises. -/
def settle (next : Nat → List Nat) (top : Nat) (order : List Nat) (d : PostDominators) :
    PostDominators :=
  let revised := pass rank next order d
  if weight rank top revised order < weight rank top d order then settle next top order revised
  else revised
termination_by weight rank top d order

end

end PostDominators

/-- The places of the first `n` points in an order. -/
def places (order : List Nat) (n : Nat) : Table Nat := .tabulate n fun a => order.idxOf a

end Flow

/-- The post-dominators of a body. -/
def Code.postDominators (code : Code) : Flow.PostDominators :=
  let order := code.backwardOrder
  let ranks := Flow.places order (code.exit + 1)
  Flow.PostDominators.settle ranks.get code.successors order.length order.tail (.rooted code.exit)

end TaintFlow
