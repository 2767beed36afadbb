/-
Module: TaintFlow.Hierarchy.Basic
Purpose: The classes under analysis and the subtype relation between them. Classes that an exclusion
  matches are not loaded; a link to a class that is not loaded leads nowhere. Declarations may be
  cyclic, so every walk keeps to the finite list of loaded names.
Main exports: Hierarchy, Hierarchy.ofProgram, Hierarchy.superclassChain, Hierarchy.supertypes,
  Hierarchy.subclasses
-/
import TaintFlow.Exclusion
import TaintFlow.Program
import TaintFlow.Reach

namespace TaintFlow

/-- The loaded classes, in the order of their declaration, and the names of those left out. -/
structure Hierarchy where
  classes : List ClassDecl := []
  excluded : List TypeName := []
deriving Repr, Inhabited

namespace Hierarchy

/-- The hierarchy of a program without the classes that are left out. -/
def ofProgram (p : Program) (e : Exclusions) : Hierarchy :=
  { classes := p.classes.filter fun c => !e.excludes c.name
    excluded := (p.classes.filter fun c => e.excludes c.name).map ClassDecl.name }

/-- The names of the loaded classes. -/
def names (h : Hierarchy) : List TypeName := h.classes.map ClassDecl.name

/-- The loaded class of a name. -/
def find? (h : Hierarchy) (t : TypeName) : Option ClassDecl :=
  h.classes.find? fun c => c.name == t

/-- Is a class loaded? -/
def contains (h : Hierarchy) (t : TypeName) : Bool := (h.find? t).isSome

/-- A type that is needed and not loaded, and whether it was left out. -/
structure Unresolved where
  type : TypeName
  excluded : Bool
deriving DecidableEq, Repr, Inhabited

/-- An unresolved type as it is shown. -/
def Unresolved.diagnostic (u : Unresolved) : Diagnostic :=
  { kind := .unresolvedType
    message := "cannot resolve type (" ++
      (if u.excluded then "excluded from scope" else "not in hierarchy") ++ ")"
    subject := some u.type }

/-- The loaded class of a name, which has to exist. -/
def require (h : Hierarchy) (t : TypeName) : Except Unresolved ClassDecl :=
  match h.find? t with
  | some c => .ok c
  | none => .error { type := t, excluded := h.excluded.contains t }

/-- The loaded superclass of a class. -/
def superclass? (h : Hierarchy) (c : ClassDecl) : Option ClassDecl := c.superclass.bind h.find?

/-- The names of the types a loaded class directly extends: its superclass, then its interfaces, as far
    as they are loaded. -/
def directSupertypes (h : Hierarchy) (t : TypeName) : List TypeName :=
  match h.find? t with
  | some c => (c.superclass.toList ++ c.interfaces).filter h.contains
  | none => []

/-- The name of the superclass of a loaded class, if that is loaded too. -/
def directSuperclass (h : Hierarchy) (t : TypeName) : List TypeName :=
  match h.find? t with
  | some c => c.superclass.toList.filter h.contains
  | none => []

/-- The names of the types that directly extend a type, in the order of their declaration, once for
    each link. -/
def directSubtypes (h : Hierarchy) (t : TypeName) : List TypeName :=
  h.names.flatMap fun s => List.replicate ((h.directSupertypes s).count t) s

/-- The classes of some names, as far as they are loaded. -/
def lookup (h : Hierarchy) (ts : List TypeName) : List ClassDecl := ts.filterMap h.find?

/-- A class and its superclasses, nearest first. The walk ends where no superclass is loaded or where
    it would repeat. -/
def superclassChain (h : Hierarchy) (t : TypeName) : List ClassDecl :=
  h.lookup (Reach.explore h.directSuperclass h.names [t])

/-- A type and all its supertypes, breadth first. -/
def supertypes (h : Hierarchy) (t : TypeName) : List TypeName :=
  Reach.explore h.directSupertypes h.names [t]

/-- Is one type a subtype of another? Each type is one of itself, loaded or not. -/
def isSubtype (h : Hierarchy) (sub sup : TypeName) : Bool :=
  sub == sup || (h.supertypes sub).contains sup

/-- The names of a type and all its subtypes, breadth first. -/
def subtypes (h : Hierarchy) (t : TypeName) : List TypeName :=
  Reach.explore h.directSubtypes h.names [t]

/-- A loaded class and all its subtypes, breadth first. -/
def subclasses (h : Hierarchy) (t : TypeName) : Except Unresolved (List ClassDecl) := do
  let _ ← h.require t
  .ok (h.lookup (h.subtypes t))

/-- One line about a hierarchy. -/
def summary (h : Hierarchy) : String := s!"ClassHierarchy({h.classes.length} classes)"

end Hierarchy

end TaintFlow
