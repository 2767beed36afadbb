/-
Module: TaintFlow.Instruction
Purpose: The instructions of a method body. Values are numbered; each instruction tells which values
  it defines and uses and how control leaves it.
Main exports: Value, CallKind, CallSite, Instruction
-/
import TaintFlow.Sexp.Basic
import TaintFlow.Signature

namespace TaintFlow

/-- A value number. The parameters of a method come first, from one on. -/
abbrev Value := Nat

/-- How a call finds its target. -/
inductive CallKind where
  | static
  | special
  | virtual
  | interface
deriving DecidableEq, Repr, Inhabited

namespace CallKind

/-- Every kind of call. -/
def all : List CallKind := [.static, .special, .virtual, .interface]

/-- The name of a kind in a dump. -/
def name : CallKind → String
  | .static => "static"
  | .special => "special"
  | .virtual => "virtual"
  | .interface => "interface"

/-- The kind of a given name. -/
def ofName? (s : String) : Option CallKind := all.find? fun k => k.name == s

/-- Does the call look its target up on the receiver's own type? -/
def isDispatch : CallKind → Bool
  | .virtual => true
  | .interface => true
  | .static => false
  | .special => false

end CallKind

/-- A call site: a program counter, the declared target and the kind of call. -/
structure CallSite where
  pc : Int
  target : Signature
  kind : CallKind
deriving DecidableEq, Repr, Inhabited

/-- The text of a call site. -/
def CallSite.text (c : CallSite) : String :=
  c.kind.name ++ " " ++ c.target.text ++ "@" ++ toString c.pc

/-- An instruction. A field access without a base is an access to a static field. -/
inductive Instruction where
  | const (result : Value) (value : Sexp)
  | new (result : Value) (type : TypeName)
  | binary (result : Value) (op : String) (left right : Value)
  | unary (result : Value) (op : String) (operand : Value)
  | cast (result : Value) (value : Value) (type : TypeName)
  | getField (result : Value) (base : Option Value) (field : FieldRef)
  | putField (base : Option Value) (field : FieldRef) (value : Value)
  | arrayLoad (result array index : Value)
  | arrayStore (array index value : Value)
  | invoke (result : Option Value) (site : CallSite) (arguments : List Value)
  | branch (op : String) (left right : Value) (target : Nat)
  | goto (target : Nat)
  | ret (value : Option Value)
  | throw (value : Value)
  | phi (result : Value) (values : List Value)
deriving Repr, Inhabited

namespace Instruction

/-- The name of an instruction's kind in records. -/
def kindName : Instruction → String
  | .const _ _ => "Const"
  | .new _ _ => "New"
  | .binary _ _ _ _ => "BinaryOp"
  | .unary _ _ _ => "UnaryOp"
  | .cast _ _ _ => "CheckCast"
  | .getField _ _ _ => "GetField"
  | .putField _ _ _ => "PutField"
  | .arrayLoad _ _ _ => "ArrayLoad"
  | .arrayStore _ _ _ => "ArrayStore"
  | .invoke _ _ _ => "Invoke"
  | .branch _ _ _ _ => "ConditionalBranch"
  | .goto _ => "Goto"
  | .ret _ => "Return"
  | .throw _ => "Throw"
  | .phi _ _ => "Phi"

/-- The values an instruction defines. -/
def defs : Instruction → List Value
  | .const r _ => [r]
  | .new r _ => [r]
  | .binary r _ _ _ => [r]
  | .unary r _ _ => [r]
  | .cast r _ _ => [r]
  | .getField r _ _ => [r]
  | .putField _ _ _ => []
  | .arrayLoad r _ _ => [r]
  | .arrayStore _ _ _ => []
  | .invoke r _ _ => r.toList
  | .branch _ _ _ _ => []
  | .goto _ => []
  | .ret _ => []
  | .throw _ => []
  | .phi r _ => [r]

/-- The values an instruction uses, as often as it names them. -/
def uses : Instruction → List Value
  | .const _ _ => []
  | .new _ _ => []
  | .binary _ _ a b => [a, b]
  | .unary _ _ a => [a]
  | .cast _ a _ => [a]
  | .getField _ base _ => base.toList
  | .putField base _ v => base.toList ++ [v]
  | .arrayLoad _ a i => [a, i]
  | .arrayStore a i v => [a, i, v]
  | .invoke _ _ args => args
  | .branch _ a b _ => [a, b]
  | .goto _ => []
  | .ret v => v.toList
  | .throw v => [v]
  | .phi _ vs => vs

/-- The place an instruction may jump to. -/
def target? : Instruction → Option Nat
  | .branch _ _ _ t => some t
  | .goto t => some t
  | _ => none

/-- Can control leave in more than one direction? -/
def isBranch : Instruction → Bool
  | .branch _ _ _ _ => true
  | _ => false

/-- Does control never reach the next instruction from here? -/
def endsBlock : Instruction → Bool
  | .goto _ => true
  | .ret _ => true
  | .throw _ => true
  | _ => false

/-- Does the instruction merge values? -/
def isPhi : Instruction → Bool
  | .phi _ _ => true
  | _ => false

/-- The call site of a call. -/
def site? : Instruction → Option CallSite
  | .invoke _ site _ => some site
  | _ => none

/-- The arguments of a call, receiver first; none for other instructions. -/
def arguments : Instruction → List Value
  | .invoke _ _ args => args
  | _ => []

/-- The receiver of a call that has one. -/
def receiver? : Instruction → Option Value
  | .invoke _ site args => if site.kind == .static then none else args.head?
  | _ => none

/-- Is this a call whose declared target returns a value? -/
def returnsValue : Instruction → Bool
  | .invoke _ site _ => !site.target.returnsVoid
  | _ => false

end Instruction

end TaintFlow
