/-
Module: TaintFlow.Code
Purpose: Method bodies. The instructions of a body are numbered from zero; the number after the last
  one is the exit, to which returns, throws and falling off the end lead. A body is well formed when
  each value has one definition, parameters have none, and jumps stay inside.
Main exports: Code, Code.successors, Code.predecessors, Code.check
-/
import TaintFlow.Instruction

namespace TaintFlow

/-- The instructions of a body, in order. -/
abbrev Code := Array Instruction

/-- Where control goes from instruction `i` of a body whose exit is `exit`. -/
def Instruction.flowsTo (i exit : Nat) : Instruction → List Nat
  | .ret _ => [exit]
  | .throw _ => [exit]
  | .goto target => [target]
  | .branch _ _ _ target => if target = i + 1 then [i + 1] else [i + 1, target]
  | _ => [i + 1]

namespace Code

/-- The point after the last instruction. -/
def exit (code : Code) : Nat := code.size

/-- The points of a body: its instructions and its exit. -/
def points (code : Code) : List Nat := List.range (code.exit + 1)

/-- The instruction at an index; a negative index has none. -/
def instruction? (code : Code) (i : Int) : Option Instruction :=
  if 0 ≤ i then code[i.toNat]? else none

/-- The points that control can reach from a point in one step. -/
def successors (code : Code) (i : Nat) : List Nat :=
  match code[i]? with
  | some inst => inst.flowsTo i code.exit
  | none => []

/-- The points from which control can reach a point in one step, in ascending order. -/
def predecessors (code : Code) (i : Nat) : List Nat :=
  code.points.filter fun j => (code.successors j).contains i

/-- The call sites of a body, in the order of their first occurrence. -/
def sites (code : Code) : List CallSite := (code.toList.filterMap Instruction.site?).eraseDups

/-- The indices of the calls made at a site, in ascending order. -/
def callIndices (code : Code) (site : CallSite) : List Nat :=
  (List.range code.size).filter fun i => (code[i]?.bind Instruction.site?) == some site

/-- The index of the instruction that defines a value. -/
def definedAt? (code : Code) (v : Value) : Option Nat :=
  (List.range code.size).find? fun i => ((code[i]?.map Instruction.defs).getD []).contains v

/-- The indices of the instructions that use a value, one for each time it is named. -/
def usedAt (code : Code) (v : Value) : List Nat :=
  (List.range code.size).flatMap fun i =>
    List.replicate (((code[i]?.map Instruction.uses).getD []).count v) i

/-- One line about the body of a method. -/
def summary (code : Code) (method : Signature) : String :=
  "IR(" ++ method.text ++ s!", {code.size} instructions)"

/-- Why a list of instructions is no body. -/
inductive Fault where
  | redefinesParameter (index : Nat) (v : Value)
  | definedTwice (v : Value) (first second : Nat)
  | jumpsOutside (index target size : Nat)
deriving DecidableEq, Repr, Inhabited

/-- The diagnostic for a fault. -/
def Fault.message : Fault → String
  | .redefinesParameter index v => s!"instruction {index} redefines parameter v{v}"
  | .definedTwice v first second => s!"value v{v} defined at {first} and {second}"
  | .jumpsOutside index target size =>
      s!"branch at {index} targets {target}, outside 0..{size - 1}"

/-- Enter the values that instruction `index` defines among those defined before. -/
def enterDefs (parameters index : Nat) (defined : List (Value × Nat)) :
    List Value → Except Fault (List (Value × Nat))
  | [] => .ok defined
  | v :: vs =>
      if v ≤ parameters then .error (.redefinesParameter index v)
      else match defined.lookup v with
        | some first => .error (.definedTwice v first index)
        | none => enterDefs parameters index ((v, index) :: defined) vs

/-- Check the instructions from `index` on, given the values defined before. -/
def checkFrom (parameters size index : Nat) (defined : List (Value × Nat)) :
    List Instruction → Except Fault Unit
  | [] => .ok ()
  | inst :: rest => do
      let defined ← enterDefs parameters index defined inst.defs
      match inst.target? with
      | some target =>
          if target < size then checkFrom parameters size (index + 1) defined rest
          else .error (.jumpsOutside index target size)
      | none => checkFrom parameters size (index + 1) defined rest

/-- Check that instructions form a body of a method with so many parameters. -/
def check (code : Code) (parameters : Nat) : Except Fault Unit :=
  checkFrom parameters code.size 0 [] code.toList

end Code

end TaintFlow
