/-
Module: TaintFlow.Solver.Algorithm
Purpose: The three ways to build a call graph. They differ in which objects are told apart and in which
  activations of a method are: the plain analysis has one object for each type and one activation for
  each method; the call-site analysis has one object for each allocation and one activation for each
  call; the container analysis has one object for each allocation, and separate activations only for
  methods called on containers, one for each object they are called on.
Main exports: Algorithm, Algorithm.ofName, Algorithm.object, Algorithm.context
-/
import TaintFlow.CallGraph.Basic
import TaintFlow.Hierarchy.Lookup

namespace TaintFlow

/-- How precise a call graph is. -/
inductive Algorithm where
  | plain
  | callSite
  | container
deriving DecidableEq, Repr, Inhabited

namespace Algorithm

/-- Every algorithm. -/
def all : List Algorithm := [.plain, .callSite, .container]

/-- The name of an algorithm. -/
def name : Algorithm → String
  | .plain => "0cfa"
  | .callSite => "vanilla-1cfa"
  | .container => "container-1cfa"

/-- A name that belongs to no algorithm. -/
structure Unknown where
  name : String
deriving DecidableEq, Repr, Inhabited

/-- An unknown name as it is shown. -/
def Unknown.diagnostic (u : Unknown) : Diagnostic :=
  { kind := .configuration
    message := "unknown analysis; expected one of " ++ String.intercalate ", " (all.map Algorithm.name)
    subject := some u.name }

/-- The algorithm of a name. -/
def ofName (s : String) : Except Unknown Algorithm :=
  match all.find? fun a => a.name == s with
  | some a => .ok a
  | none => .error ⟨s⟩

/-- The object that stands for what an instruction of a method allocates. -/
def object (a : Algorithm) (method : Signature) (index : Nat) (type : TypeName) : AbstractObject :=
  match a with
  | .plain => .ofType type
  | .callSite => .allocatedAt method index type
  | .container => .allocatedAt method index type

/-- Are the objects that a method is called on told apart, even where the call fixes the method? -/
def splitsReceivers : Algorithm → Bool
  | .plain => false
  | .callSite => false
  | .container => true

/-- The types whose subtypes are containers. -/
def containerTypes : List TypeName := ["Ljava/util/Collection", "Ljava/util/Map"]

/-- Is a type that of a container? -/
def isContainer (h : Hierarchy) (t : TypeName) : Bool := containerTypes.any (h.isSubtype t)

/-- The context in which a call at `pc` of `caller` activates a method, given the object it is called
    on, if that is told apart. -/
def context (a : Algorithm) (h : Hierarchy) (caller : Signature) (pc : Int)
    (receiver : Option AbstractObject) : Context :=
  match a, receiver with
  | .plain, _ => .everywhere
  | .callSite, _ => .callSite caller pc
  | .container, none => .everywhere
  | .container, some o => if isContainer h o.type then .receiver o else .everywhere

end Algorithm

end TaintFlow
