/-
Module: TaintFlow.Taint.Criterion
Purpose: What to slice from. The criterion for a call is the result it receives, which a call of a void
  method does not have; any other statement is its own criterion.
Main exports: Taint.VoidReturn, Taint.criterion
-/
import TaintFlow.Diagnostic
import TaintFlow.Statement

namespace TaintFlow.Taint

/-- A call that returns nothing to slice from. -/
structure VoidReturn where
  index : Int
  caller : Signature
  target : Signature
deriving DecidableEq, Repr, Inhabited

/-- A call without a result as it is shown. -/
def VoidReturn.diagnostic (v : VoidReturn) : Diagnostic :=
  { kind := .voidReturn
    message := s!"call at {v.index} in " ++ v.caller.text ++
      " returns void; there is no return value to slice from"
    subject := some v.target.text }

/-- The criterion for a statement that belongs to the given instruction, if to any. -/
def criterion (g : CallGraph) (inst : Option Instruction) (s : Statement) :
    Except VoidReturn Statement :=
  match s, inst with
  | .normal n i, some (.invoke _ site _) =>
      if site.target.returnsVoid then
        .error { index := i, caller := ((g.node? n).map Node.signature).getD default
                 target := site.target }
      else .ok (.result n i)
  | _, _ => .ok s

end TaintFlow.Taint
