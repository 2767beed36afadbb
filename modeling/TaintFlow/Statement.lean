/-
Module: TaintFlow.Statement
Purpose: What slices consist of: places in an activation. An instruction stands for itself; a call also
  has its actual parameters and the result it receives; an activation has an entry, formal parameters
  and the value it returns. Positions count the receiver, so position `k` belongs to value `k + 1`.
Main exports: Statement, Statement.text, Statement.order, CallGraph.instructionOf
-/
import TaintFlow.CallGraph.Basic

namespace TaintFlow

/-- A place in an activation. Numbers that no instruction or parameter has are allowed; nothing depends
    on the statement then. -/
inductive Statement where
  | normal (node : NodeId) (index : Int)
  | phi (node : NodeId) (index : Int)
  | actual (node : NodeId) (index position : Int)
  | formal (node : NodeId) (position : Int)
  | result (node : NodeId) (index : Int)
  | returned (node : NodeId)
  | entry (node : NodeId)
deriving DecidableEq, Repr, Inhabited

namespace Statement

/-- The activation a statement belongs to. -/
def node : Statement → NodeId
  | .normal n _ => n
  | .phi n _ => n
  | .actual n _ _ => n
  | .formal n _ => n
  | .result n _ => n
  | .returned n => n
  | .entry n => n

/-- The index of the instruction that a statement belongs to. -/
def index? : Statement → Option Int
  | .normal _ i => some i
  | .phi _ i => some i
  | .actual _ i _ => some i
  | .formal _ _ => none
  | .result _ i => some i
  | .returned _ => none
  | .entry _ => none

/-- The position of the parameter that a statement stands for. -/
def position? : Statement → Option Int
  | .normal _ _ => none
  | .phi _ _ => none
  | .actual _ _ p => some p
  | .formal _ p => some p
  | .result _ _ => none
  | .returned _ => none
  | .entry _ => none

/-- The index of the instruction, or minus one. -/
def index (s : Statement) : Int := s.index?.getD (-1)

/-- The position of the parameter, or minus one. -/
def position (s : Statement) : Int := s.position?.getD (-1)

/-- The name of the kind of a statement. -/
def kindName : Statement → String
  | .normal _ _ => "normal"
  | .phi _ _ => "phi"
  | .actual _ _ _ => "param-caller"
  | .formal _ _ => "param-callee"
  | .result _ _ => "normal-return-caller"
  | .returned _ => "normal-return-callee"
  | .entry _ => "method-entry"

/-- The names of all kinds. -/
def kindNames : List String :=
  ["normal", "phi", "param-caller", "param-callee", "normal-return-caller", "normal-return-callee",
   "method-entry"]

/-- The statement of a kind in an activation, given its index, its position, or both. -/
def ofKind? (kind : String) (node : NodeId) (numbers : List Int) : Option Statement :=
  match kind, numbers with
  | "normal", [i] => some (.normal node i)
  | "phi", [i] => some (.phi node i)
  | "param-caller", [i, p] => some (.actual node i p)
  | "param-callee", [p] => some (.formal node p)
  | "normal-return-caller", [i] => some (.result node i)
  | "normal-return-callee", [] => some (.returned node)
  | "method-entry", [] => some (.entry node)
  | _, _ => none

/-- The place of its kind among the kinds of statements. -/
def rank : Statement → Nat
  | .normal _ _ => 0
  | .phi _ _ => 1
  | .actual _ _ _ => 2
  | .formal _ _ => 3
  | .result _ _ => 4
  | .returned _ => 5
  | .entry _ => 6

/-- The order of the statements of one activation: by instruction, kind and position. -/
def orderInside (s t : Statement) : Ordering :=
  (compare s.index t.index).then <| (compare s.rank t.rank).then (compare s.position t.position)

/-- The order of statements: by activation first. -/
def order (s t : Statement) : Ordering := (compare s.node t.node).then (s.orderInside t)

/-- Does `s` stand before `t`, or at the same place? -/
def le (s t : Statement) : Bool := s.order t != .gt

/-- The numbers in the text of a statement. -/
def numbers : Statement → String
  | .actual _ i p => s!"[{i}:{p}]"
  | .formal _ p => s!"[{p}]"
  | .normal _ i => indexText i
  | .phi _ i => indexText i
  | .result _ i => indexText i
  | .returned _ => ""
  | .entry _ => ""
where
  /-- An index in brackets, unless it is negative. -/
  indexText (i : Int) : String := if 0 ≤ i then s!"[{i}]" else ""

/-- The text of a statement of a call graph. -/
def text (g : CallGraph) (s : Statement) : String :=
  let place := match g.node? s.node with
    | some n => n.signature.text
    | none => ""
  s.kindName ++ s.numbers ++ " " ++ place ++ s!"#{s.node}"

/-- A name for the statement that does not depend on the numbers of activations, given one for its
    activation. -/
def label (s : Statement) (activation : String) : String :=
  s.kindName ++ s!"[{s.index}:{s.position}] " ++ activation

end Statement

/-- The statement that stands for an instruction of an activation itself. -/
def Node.statementAt (n : Node) (i : Nat) : Statement :=
  match n.code[i]? with
  | some (.phi _ _) => .phi n.id i
  | _ => .normal n.id i

/-- A statement that belongs to an instruction which does not exist. -/
structure MissingInstruction where
  statement : Statement
deriving DecidableEq, Repr, Inhabited

namespace CallGraph

/-- The instruction at an index of an activation. -/
def instructionAt? (g : CallGraph) (n : NodeId) (i : Int) : Option Instruction :=
  (g.node? n).bind fun node => node.code.instruction? i

/-- The instruction that a statement belongs to, if there is one. -/
def instruction? (g : CallGraph) (s : Statement) : Option Instruction :=
  s.index?.bind fun i => g.instructionAt? s.node i

/-- The instruction that a statement belongs to. It has to exist, unless the index is negative: then the
    statement belongs to none. -/
def instructionOf (g : CallGraph) (s : Statement) : Except MissingInstruction (Option Instruction) :=
  match s.index?, g.instruction? s with
  | some i, none => if 0 ≤ i then .error ⟨s⟩ else .ok none
  | _, inst => .ok inst

end CallGraph

end TaintFlow
