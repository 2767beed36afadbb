/-
Module: TaintFlow.Dependence.Procedure
Purpose: The statements of one activation and the dependences between them. A value's definition leads
  to its uses; a call leads to its parameters and its result; a branch leads to what it decides about,
  and the entry to whatever no branch decides about.
Main exports: Link, Node.statements, Node.links, Procedure
-/
import TaintFlow.Dependence.Kind
import TaintFlow.Flow.ControlDependence
import TaintFlow.Statement

namespace TaintFlow

/-- One statement depends on another: `target` on `source`. -/
structure Link where
  source : Statement
  kind : Dependence
  target : Statement
deriving DecidableEq, Repr, Inhabited

namespace Node

/-! ### Statements -/

/-- The formal parameters of an activation. -/
def formals (n : Node) : List Statement :=
  (List.range n.method.parameterCount).map fun k : Nat => .formal n.id k

/-- Does the activated method return a value? -/
def returnsValue (n : Node) : Bool := !n.signature.returnsVoid

/-- Is instruction `i` a call whose declared target returns a value? -/
def receivesResult (n : Node) (i : Nat) : Bool :=
  match n.code[i]? with
  | some inst => inst.returnsValue
  | none => false

/-- The actual parameters of the call at `i`; none for other instructions. -/
def actualsAt (n : Node) (i : Nat) : List Statement :=
  match n.code[i]? with
  | some inst => (List.range inst.arguments.length).map fun k : Nat => .actual n.id i k
  | none => []

/-- The parameters and the result of the call at `i`; none for other instructions. -/
def callPartsAt (n : Node) (i : Nat) : List Statement :=
  n.actualsAt i ++ (if n.receivesResult i then [.result n.id i] else [])

/-- The indices of the instructions that run. -/
def indices (n : Node) : List Nat := if n.method.hasBody then List.range n.code.size else []

/-- All statements of an activation. -/
def statements (n : Node) : List Statement :=
  .entry n.id :: n.formals ++
    n.indices.flatMap (fun i => n.statementAt i :: n.callPartsAt i) ++
    (if n.returnsValue then [.returned n.id] else [])

/-! ### Definitions and uses -/

/-- The statement that defines a value. -/
def definition? (n : Node) (v : Value) : Option Statement :=
  if n.method.isParameter v then some (.formal n.id (v - 1 : Nat))
  else (n.code.definedAt? v).map fun i =>
    match n.code[i]? with
    | some (.invoke _ _ _) => .result n.id i
    | _ => n.statementAt i

/-- The statements through which instruction `i` uses a value: for a call, its parameters that pass
    the value on. -/
def useStatements (n : Node) (i : Nat) (v : Value) : List Statement :=
  match n.code[i]? with
  | some (.invoke _ _ args) =>
      args.zipIdx.filterMap fun p => if p.1 = v then some (.actual n.id i p.2) else none
  | _ => [n.statementAt i]

/-- The values that instruction `i` uses, each once. -/
def usesAt (n : Node) (i : Nat) : List Value :=
  ((n.code[i]?.map Instruction.uses).getD []).eraseDups

/-! ### Dependences -/

/-- From each call to its parameters and its result. -/
def callLinks (n : Node) : List Link :=
  n.indices.flatMap fun i =>
    (n.callPartsAt i).map fun t => ⟨n.statementAt i, .control, t⟩

/-- From the definition of a value to its uses at `i`. -/
def useLinks (n : Node) (i : Nat) (v : Value) : List Link :=
  match n.definition? v with
  | some d => (n.useStatements i v).map fun u => ⟨d, .data, u⟩
  | none => []

/-- From a return with a value to the value returned. -/
def returnLinks (n : Node) (i : Nat) : List Link :=
  match n.code[i]? with
  | some (.ret (some _)) =>
      if n.returnsValue then [⟨n.statementAt i, .data, .returned n.id⟩] else []
  | _ => []

/-- From definitions to uses. -/
def dataLinks (n : Node) : List Link :=
  n.indices.flatMap fun i => (n.usesAt i).flatMap (n.useLinks i) ++ n.returnLinks i

/-- From branches to what they decide about, and from the entry to the rest. -/
def controlLinks (n : Node) : List Link :=
  let table := n.code.controlDependence
  let decided := table.flatMap Prod.snd
  let branches := table.flatMap fun row =>
    row.2.map fun b => ⟨n.statementAt row.1, .control, n.statementAt b⟩
  let rest := (n.indices.filter fun i => !decided.contains i).map fun i =>
    ⟨.entry n.id, .control, n.statementAt i⟩
  branches ++ rest

/-- All dependences inside an activation, each once. -/
def links (n : Node) : List Link :=
  if n.method.hasBody then (n.callLinks ++ n.dataLinks ++ n.controlLinks).eraseDups else []

end Node

/-- An activation together with the dependences inside it. -/
structure Procedure where
  node : Node
  links : List Link
deriving Repr, Inhabited

namespace Procedure

/-- The dependences inside an activation. -/
def ofNode (n : Node) : Procedure := { node := n, links := n.links }

/-- The dependences that leave a statement. -/
def linksFrom (p : Procedure) (s : Statement) : List Link := p.links.filter fun l => l.source == s

/-- All dependences, those of one source together, sources in the order of their first dependence. -/
def grouped (p : Procedure) : List Link :=
  (p.links.map Link.source).eraseDups.flatMap p.linksFrom

/-- One line about a procedure. -/
def summary (p : Procedure) : String :=
  "ProcedureDependenceGraph(" ++ p.node.signature.text ++
    s!"#{p.node.id}, {p.node.statements.length} statements, {p.links.length} edges)"

end Procedure

end TaintFlow
