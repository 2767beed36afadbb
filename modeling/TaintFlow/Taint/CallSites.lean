/-
Module: TaintFlow.Taint.CallSites
Purpose: Where an application calls a method. The call graph tells which activations call it, and the
  calls in their code tell where. Only descriptors are compared there, because the declared target of a
  call may be another declaration than the method that runs.
Main exports: CallGraph.applicationCallers, Node.callSites, Taint.SearchFault
-/
import TaintFlow.Diagnostic
import TaintFlow.Statement

namespace TaintFlow

/-- The activations of application methods that call a method, each once. -/
def CallGraph.applicationCallers (g : CallGraph) (target : Signature) : List Node :=
  let ids := ((g.nodesFor target).flatMap fun n => g.callers n.id).eraseDups
  (ids.filterMap g.node?).filter fun n => n.method.isApplication

namespace Taint

/-- How the code of an activation can contradict the call graph. -/
inductive SearchFault where
  | ambiguous (site : CallSite) (caller target : Signature) (indices : List Nat)
  | notFound (caller : Node) (target : Signature)
deriving Repr, Inhabited

/-- A fault as it is shown. -/
def SearchFault.diagnostic : SearchFault → Diagnostic
  | .ambiguous site caller target indices =>
      { kind := .ambiguousCallSite
        message := "call site " ++ site.text ++ " in " ++ caller.text ++ " maps to indices " ++
          Text.bracketed (indices.map fun i : Nat => toString i)
        subject := some target.text
        count := indices.length }
  | .notFound caller target =>
      { kind := .callSiteNotFound
        message := "no call in " ++ caller.signature.text ++
          s!"#{caller.id} although the call graph has an edge"
        subject := some target.text }

end Taint

namespace Node

/-- The call sites of an activation whose declared target has a given descriptor, in order. -/
def sitesWith (n : Node) (descriptor : String) : List CallSite :=
  (n.code.toList.filterMap Instruction.site?).filter fun s => s.target.descriptor == descriptor

/-- The indices of some call sites, each of which must belong to one instruction. -/
def indicesOf (n : Node) (target : Signature) : List CallSite → Except Taint.SearchFault (List Nat)
  | [] => .ok []
  | site :: rest =>
      match n.code.callIndices site with
      | [i] => do
          let later ← n.indicesOf target rest
          .ok (i :: later)
      | indices => .error (.ambiguous site n.signature target indices)

/-- The calls in an activation that may be calls of a method. There has to be one. -/
def callSites (n : Node) (target : Signature) : Except Taint.SearchFault (List Statement) := do
  let indices ← n.indicesOf target (n.sitesWith target.descriptor)
  if indices.isEmpty then .error (.notFound n target)
  else .ok (indices.map fun i : Nat => .normal n.id i)

end Node

end TaintFlow
