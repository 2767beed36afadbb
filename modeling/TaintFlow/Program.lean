/-
Module: TaintFlow.Program
Purpose: Programs: classes in the order of their declaration, each with its methods in order.
Main exports: Method, ClassDecl, Program
-/
import TaintFlow.Code

namespace TaintFlow

/-- A declared method. A method that is neither abstract nor native has a body, which may be empty. -/
structure Method where
  signature : Signature
  loader : Loader
  isStatic : Bool := false
  isAbstract : Bool := false
  isNative : Bool := false
  code : Code := #[]
deriving Repr, Inhabited

namespace Method

/-- The number of parameter values; an instance method has its receiver as the first. -/
def parameterCount (m : Method) : Nat :=
  m.signature.parameterTypes.length + (if m.isStatic then 0 else 1)

/-- Does the method have instructions of its own to run? -/
def hasBody (m : Method) : Bool := !(m.isAbstract || m.isNative)

/-- Is the method part of the user's own code? -/
def isApplication (m : Method) : Bool := m.loader.isApplication

/-- Is the value one of the method's parameters? -/
def isParameter (m : Method) (v : Value) : Bool := 1 ≤ v && v ≤ m.parameterCount

end Method

/-- A declared class or interface. -/
structure ClassDecl where
  name : TypeName
  loader : Loader := .application
  superclass : Option TypeName := none
  interfaces : List TypeName := []
  isAbstract : Bool := false
  isInterface : Bool := false
  methods : List Method := []
deriving Repr, Inhabited

namespace ClassDecl

/-- The method that a class itself declares for a selector. -/
def method? (c : ClassDecl) (s : Selector) : Option Method :=
  c.methods.find? fun m => m.signature.selector == s

/-- One line about a class. -/
def summary (c : ClassDecl) : String :=
  "ClassInfo(" ++ Text.quote c.name ++ ", " ++ c.loader.name ++ ", " ++
    toString c.methods.length ++ " methods)"

end ClassDecl

/-- A program and the name of the file it was read from. -/
structure Program where
  source : String
  classes : List ClassDecl := []
deriving Repr, Inhabited

/-- All methods of a program, in order. -/
def Program.methods (p : Program) : List Method := p.classes.flatMap ClassDecl.methods

end TaintFlow
