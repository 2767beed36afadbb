/-
Module: TaintFlow.Dependence.Kind
Purpose: The kinds of dependence between statements, and which of them a slice follows. Data and control
  dependence stay inside an activation; parameters and calls lead down into a callee and returns lead up
  to a caller; dependence through the heap joins any two activations; a summary leads over a call.
Main exports: Dependence, DataOption, ControlOption, Options, Options.enables
-/

namespace TaintFlow

/-- A kind of dependence. -/
inductive Dependence where
  | data
  | control
  | heap
  | param
  | call
  | ret
  | summary
deriving DecidableEq, Repr, Inhabited

namespace Dependence

/-- Every kind of dependence. -/
def all : List Dependence := [.data, .control, .heap, .param, .call, .ret, .summary]

/-- The name of a kind. -/
def name : Dependence → String
  | .data => "DATA"
  | .control => "CONTROL"
  | .heap => "HEAP"
  | .param => "PARAM"
  | .call => "CALL"
  | .ret => "RETURN"
  | .summary => "SUMMARY"

/-- Does the dependence lead into a callee? -/
def isDescending : Dependence → Bool
  | .param => true
  | .call => true
  | _ => false

/-- Does the dependence lead back to a caller? -/
def isAscending : Dependence → Bool
  | .ret => true
  | _ => false

end Dependence

/-- Which data dependences are followed: all, all but those through the heap, or none. -/
inductive DataOption where
  | full
  | noHeap
  | none
deriving DecidableEq, Repr, Inhabited

namespace DataOption

/-- Every choice. -/
def all : List DataOption := [.full, .noHeap, .none]

/-- The name of a choice. -/
def name : DataOption → String
  | .full => "full"
  | .noHeap => "no-heap"
  | .none => "none"

/-- The choice of a given name. -/
def ofName? (s : String) : Option DataOption := all.find? fun d => d.name == s

end DataOption

/-- Which control dependences are followed: all, only those inside an activation, or none. -/
inductive ControlOption where
  | full
  | insideOnly
  | none
deriving DecidableEq, Repr, Inhabited

namespace ControlOption

/-- Every choice. -/
def all : List ControlOption := [.full, .insideOnly, .none]

/-- The name of a choice. -/
def name : ControlOption → String
  | .full => "full"
  | .insideOnly => "no-interproc-edges"
  | .none => "none"

/-- The choice of a given name. -/
def ofName? (s : String) : Option ControlOption := all.find? fun c => c.name == s

end ControlOption

/-- Which dependences are followed. -/
structure Options where
  data : DataOption := .full
  control : ControlOption := .full
deriving DecidableEq, Repr, Inhabited

namespace Options

/-- Is a kind of dependence followed? -/
def enables (o : Options) : Dependence → Bool
  | .data => o.data != .none
  | .param => o.data != .none
  | .ret => o.data != .none
  | .summary => o.data != .none
  | .heap => o.data == .full
  | .control => o.control != .none
  | .call => o.control == .full

end Options

end TaintFlow
