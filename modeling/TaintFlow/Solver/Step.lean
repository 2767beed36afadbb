/-
Module: TaintFlow.Solver.Step
Purpose: What one visit of an activation adds to a partial call graph and points-to map. Objects flow
  along assignments, through fields and arrays, into the parameters of called methods and back from
  their results; calls are resolved against the objects that reach their receiver.
Main exports: Solver.Setting, Solver.State, Solver.State.visit, Solver.Notice
-/
import TaintFlow.Solver.Algorithm

namespace TaintFlow.Solver

/-- What stays the same while a program is solved. -/
structure Setting where
  hierarchy : Hierarchy
  algorithm : Algorithm := .plain
  enumeration : Enumeration := .asFound
deriving Inhabited

/-- A call that leads nowhere, or whose arguments do not fit. -/
inductive Notice where
  | unresolved (target caller : Signature)
  | notImplemented (target : Signature) (receiver : AbstractObject)
  | arityMismatch (target caller : Signature)
deriving DecidableEq, Repr, Inhabited

/-- The text of a notice. -/
def Notice.message : Notice → String
  | .unresolved target caller => "Unresolved call target " ++ target.text ++ " in " ++ caller.text
  | .notImplemented target receiver =>
      "No implementation of " ++ target.text ++ " for receiver " ++ receiver.text
  | .arityMismatch target caller =>
      "Arity mismatch calling " ++ target.text ++ " from " ++ caller.text

/-- A method that a call activates, with the object it is called on where that is told apart. -/
structure Callee where
  method : Method
  receiver : Option AbstractObject := none
deriving Repr, Inhabited

/-- What is known so far. -/
structure State where
  graph : CallGraph := {}
  heap : PointsTo := {}
  notices : List Notice := []
deriving Repr, Inhabited

/-! ### Flow inside one activation -/

/-- The type every reference has. -/
def rootType : TypeName := "Ljava/lang/Object"

/-- Can a cast to a type let an object of type `t` through? A type that is not loaded lets everything
    through, since nothing is known about it. -/
def Setting.admits (S : Setting) (target t : TypeName) : Bool :=
  target == rootType || t == target || !S.hierarchy.contains target || S.hierarchy.isSubtype t target

/-- The flow of objects that one instruction of an activation causes: where they go, and which. Calls
    are treated apart. -/
def Setting.transfers (S : Setting) (heap : PointsTo) (n : Node) (index : Nat) :
    Instruction → List (Location × List AbstractObject)
  | .new r t => [(.value n.id r, [S.algorithm.object n.signature index t])]
  | .phi r vs => vs.map fun v : Value => (.value n.id r, heap.get (.value n.id v))
  | .cast r v t =>
      [(.value n.id r, (heap.get (.value n.id v)).filter fun o => S.admits t o.type)]
  | .getField r none f => [(.value n.id r, heap.get (.static f))]
  | .getField r (some base) f =>
      (heap.get (.value n.id base)).map fun o => (.value n.id r, heap.get (.field o f.name))
  | .putField none f v => [(.static f, heap.get (.value n.id v))]
  | .putField (some base) f v =>
      (heap.get (.value n.id base)).map fun o => (.field o f.name, heap.get (.value n.id v))
  | .arrayLoad r a _ =>
      (heap.get (.value n.id a)).map fun o => (.value n.id r, heap.get (.element o))
  | .arrayStore a _ v =>
      (heap.get (.value n.id a)).map fun o => (.element o, heap.get (.value n.id v))
  | .ret (some v) => [(.returned n.id, heap.get (.value n.id v))]
  | .ret none => []
  | .const _ _ => []
  | .binary _ _ _ _ => []
  | .unary _ _ _ => []
  | .branch _ _ _ _ => []
  | .goto _ => []
  | .throw _ => []
  | .invoke _ _ _ => []

/-- Enter flows, one after another. -/
def addAll (heap : PointsTo) (flows : List (Location × List AbstractObject)) : PointsTo :=
  flows.foldl (fun heap f => heap.add f.1 f.2) heap

/-! ### Calls -/

/-- The methods that a call with the given receiver objects may activate, or why it does not. A static
    call needs no receiver; any other call activates nothing until an object reaches its receiver. -/
def Setting.outcomes (S : Setting) (caller : Signature) (site : CallSite)
    (receivers : List AbstractObject) : List (Except Notice Callee) :=
  match site.kind with
  | .static =>
      match S.hierarchy.resolve? S.enumeration site.target with
      | some m => [.ok { method := m }]
      | none => [.error (.unresolved site.target caller)]
  | .special =>
      match S.hierarchy.resolve? S.enumeration site.target with
      | some m =>
          if S.algorithm.splitsReceivers then
            receivers.map fun o => .ok { method := m, receiver := some o }
          else if receivers.isEmpty then [] else [.ok { method := m }]
      | none => [.error (.unresolved site.target caller)]
  | .virtual => receivers.map dispatch
  | .interface => receivers.map dispatch
where
  /-- The method that runs on one receiver object. -/
  dispatch (o : AbstractObject) : Except Notice Callee :=
    match S.hierarchy.dispatch? o.type site.target with
    | some m => .ok { method := m, receiver := some o }
    | none => .error (.notImplemented site.target o)

/-- Flow into the parameters of a callee. The first argument of a call on a known object is that object
    alone, not all that the argument may hold. -/
def passArguments (heap : PointsTo) (caller callee : NodeId) (receiver : Option AbstractObject)
    (position : Nat) : List Value → PointsTo
  | [] => heap
  | v :: vs =>
      let objects := match position, receiver with
        | 0, some o => [o]
        | _, _ => heap.get (.value caller v)
      passArguments (heap.add (.value callee (position + 1)) objects) caller callee receiver
        (position + 1) vs

/-- Link a call to one method that it activates: enter the activation and the edge, pass the arguments
    if their number fits, and take the result. -/
def State.link (σ : State) (S : Setting) (n : Node) (result : Option Value) (site : CallSite)
    (arguments : List Value) (c : Callee) : State :=
  let context := S.algorithm.context S.hierarchy n.signature site.pc c.receiver
  let (graph, callee) := σ.graph.intern c.method context
  let graph := graph.addEdge { caller := n.id, site, callee }
  let fits := c.method.parameterCount = arguments.length
  let heap := if c.method.hasBody && fits then
      passArguments σ.heap n.id callee c.receiver 0 arguments
    else σ.heap
  let notices := if c.method.hasBody && !fits then
      σ.notices ++ [.arityMismatch c.method.signature n.signature]
    else σ.notices
  let heap := match result with
    | some r => heap.add (.value n.id r) (heap.get (.returned callee))
    | none => heap
  { graph, heap, notices }

/-- The objects that reach the receiver of a call; none for a static call. -/
def receivers (heap : PointsTo) (n : Node) (inst : Instruction) : List AbstractObject :=
  match inst.receiver? with
  | some v => heap.get (.value n.id v)
  | none => []

/-! ### Visits -/

/-- Take one instruction of an activation into account. -/
def State.execute (σ : State) (S : Setting) (n : Node) (index : Nat) (inst : Instruction) : State :=
  match inst with
  | .invoke result site arguments =>
      let outcomes := S.outcomes n.signature site (receivers σ.heap n inst)
      let failures := outcomes.filterMap fun
        | .ok _ => none
        | .error notice => some notice
      let callees := outcomes.filterMap fun
        | .ok c => some c
        | .error _ => none
      callees.foldl (fun σ c => σ.link S n result site arguments c)
        { σ with notices := σ.notices ++ failures }
  | _ => { σ with heap := addAll σ.heap (S.transfers σ.heap n index inst) }

/-- Take an activation into account: its instructions in order; without a body, a native method returns
    objects of its result type. -/
def State.visit (σ : State) (S : Setting) (n : Node) : State :=
  if n.method.hasBody then
    n.code.toList.zipIdx.foldl (fun σ p => σ.execute S n p.2 p.1) σ
  else
    match n.signature.resultType? with
    | some t =>
        if n.method.isNative && isReference t then
          { σ with heap := σ.heap.add (.returned n.id) [.ofType t] }
        else σ
    | none => σ

end TaintFlow.Solver
