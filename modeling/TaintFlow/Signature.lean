/-
Module: TaintFlow.Signature
Purpose: How a dump names methods, fields and the loaders that classes come from.
Main exports: Signature, Selector, FieldRef, Loader
-/
import TaintFlow.Descriptor

namespace TaintFlow

/-- What dispatch matches on: a method's name and the text of its descriptor. -/
structure Selector where
  name : String
  descriptor : String
deriving DecidableEq, Repr, Inhabited

/-- A method, named by the type that declares it, its name and the text of its descriptor. -/
structure Signature where
  owner : TypeName
  name : String
  descriptor : String
deriving DecidableEq, Repr, Inhabited

namespace Signature

/-- The text of a signature. -/
def text (s : Signature) : String := s.owner ++ "." ++ s.name ++ s.descriptor

/-- A signature without its owner. -/
def selector (s : Signature) : Selector := ⟨s.name, s.descriptor⟩

/-- The types in the descriptor. -/
def types (s : Signature) : Except Descriptor.Fault Descriptor := Descriptor.parse s.descriptor

/-- The parameter types; none for a malformed descriptor. -/
def parameterTypes (s : Signature) : List TypeName :=
  match s.types with
  | .ok d => d.parameters
  | .error _ => []

/-- The result type, if the descriptor is well formed. -/
def resultType? (s : Signature) : Option TypeName :=
  match s.types with
  | .ok d => some d.result
  | .error _ => none

/-- Is the result type void? -/
def returnsVoid (s : Signature) : Bool := s.resultType? == some voidType

end Signature

/-- A field, named by the type that declares it and its name. -/
structure FieldRef where
  owner : TypeName
  name : String
deriving DecidableEq, Repr, Inhabited

/-- The text of a field. -/
def FieldRef.text (f : FieldRef) : String := f.owner ++ "." ++ f.name

/-- Where a class comes from. Only application classes are the user's own code. -/
inductive Loader where
  | application
  | extension
  | primordial
  | synthetic
deriving DecidableEq, Repr, Inhabited

namespace Loader

/-- Every loader. -/
def all : List Loader := [.application, .extension, .primordial, .synthetic]

/-- The name of a loader in a dump. -/
def name : Loader → String
  | .application => "application"
  | .extension => "extension"
  | .primordial => "primordial"
  | .synthetic => "synthetic"

/-- The loader of a given name. -/
def ofName? (s : String) : Option Loader := all.find? fun l => l.name == s

/-- Is this the loader of the user's own code? -/
def isApplication (l : Loader) : Bool := l == .application

end Loader

end TaintFlow
