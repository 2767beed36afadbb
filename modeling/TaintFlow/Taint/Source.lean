/-
Module: TaintFlow.Taint.Source
Purpose: Where tainted data comes from: methods that a class which is not abstract declares or inherits
  from a base type, recognised by the beginning of their name and by their result type.
Main exports: Taint.SourcePattern, Taint.SourcePattern.standard, Hierarchy.implementors
-/
import TaintFlow.Hierarchy.Lookup

namespace TaintFlow

namespace Taint

/-- The methods of subtypes of `base` whose name begins with `stem` and that return `result`. -/
structure SourcePattern where
  base : TypeName
  stem : String
  result : TypeName
deriving DecidableEq, Repr, Inhabited

namespace SourcePattern

/-- Does a method have the name and the result of a pattern? -/
def matchesSignature (p : SourcePattern) (s : Signature) : Bool :=
  p.stem.toList.isPrefixOf s.name.toList && s.resultType? == some p.result

/-- The text of a pattern. -/
def text (p : SourcePattern) : String := p.base ++ "." ++ p.stem ++ "*:" ++ p.result

/-- The operations of input streams that read bytes. -/
def standard : List SourcePattern := [⟨"Ljava/io/InputStream", "read", "I"⟩]

end SourcePattern

end Taint

/-- The methods that a pattern describes, each once. -/
def Hierarchy.implementors (h : Hierarchy) (en : Enumeration) (p : Taint.SourcePattern) :
    Except Hierarchy.Unresolved (List Signature) := do
  let classes ← h.subclasses p.base
  let methods := (classes.filter fun c => !c.isAbstract).flatMap fun c =>
    (h.allMethods en c.name).filter fun m => !m.isAbstract
  .ok ((methods.map Method.signature).filter p.matchesSignature).eraseDups

end TaintFlow
