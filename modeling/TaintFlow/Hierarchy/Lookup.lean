/-
Module: TaintFlow.Hierarchy.Lookup
Purpose: Finding methods. A declaration is looked up in a class, then along its superclasses, then in
  its other supertypes, in whatever order these are given; dispatch takes the nearest method along the
  superclasses that is not abstract.
Main exports: Enumeration, Hierarchy.method?, Hierarchy.resolve?, Hierarchy.dispatch?,
  Hierarchy.allMethods, Hierarchy.resolveAlong?, Hierarchy.allMethodsAlong, Hierarchy.mains
-/
import TaintFlow.Hierarchy.Basic

namespace TaintFlow

/-- The order in which sets of types are enumerated: their members are rearranged, starting from the order
    in which they were put in. -/
structure Enumeration where
  arrange : List TypeName → List TypeName
  perm : ∀ ts, (arrange ts).Perm ts

namespace Enumeration

/-- Types come in the order in which they were put in. -/
def asFound : Enumeration := ⟨fun ts => ts, List.Perm.refl⟩

instance : Inhabited Enumeration := ⟨asFound⟩

/-- Types that can be rearranged in some way are enumerated in that way by some enumeration. -/
theorem exists_arrange {ts order : List TypeName} (h : order.Perm ts) :
    ∃ en : Enumeration, en.arrange ts = order := by
  refine ⟨⟨fun us => if us = ts then order else us, ?_⟩, if_pos rfl⟩
  intro us
  split
  · next heq => exact heq ▸ h
  · exact .refl us

end Enumeration

namespace Hierarchy

/-- The classes in which the methods of a type are looked up, in order: superclasses first, then all
    supertypes in the order in which they are given. -/
def lookupAlong (h : Hierarchy) (supertypes : List TypeName) (t : TypeName) : List ClassDecl :=
  h.superclassChain t ++ h.lookup supertypes

/-- All methods a type declares or inherits; of several with one selector, the first in the order of
    lookup. -/
def allMethodsAlong (h : Hierarchy) (supertypes : List TypeName) (t : TypeName) : List Method :=
  (h.lookupAlong supertypes t).flatMap ClassDecl.methods |>.foldl
    (fun found m =>
      if found.any fun f => f.signature.selector == m.signature.selector then found
      else found ++ [m]) []

/-- The declaration that a signature refers to, where supertypes are given in some order. -/
def resolveAlong? (h : Hierarchy) (supertypes : List TypeName) (s : Signature) : Option Method :=
  (h.lookupAlong supertypes s.owner).findSome? fun c => c.method? s.selector

/-- All methods a type declares or inherits. -/
def allMethods (h : Hierarchy) (en : Enumeration) (t : TypeName) : List Method :=
  h.allMethodsAlong (en.arrange (h.supertypes t)) t

/-- The declaration that a signature refers to. -/
def resolve? (h : Hierarchy) (en : Enumeration) (s : Signature) : Option Method :=
  h.resolveAlong? (en.arrange (h.supertypes s.owner)) s

/-- The method that runs when `target` is called on an object of type `receiver`. -/
def dispatch? (h : Hierarchy) (receiver : TypeName) (target : Signature) : Option Method :=
  (h.superclassChain receiver).findSome? fun c =>
    (c.method? target.selector).filter fun m => !m.isAbstract

/-- The method declared exactly at a signature. -/
def method? (h : Hierarchy) (s : Signature) : Option Method :=
  (h.find? s.owner).bind fun c => c.method? s.selector

/-- The selector of the methods at which programs start. -/
def mainSelector : Selector := ⟨"main", "([Ljava/lang/String;)V"⟩

/-- The main methods of the application, in the order of their declaration. -/
def mains (h : Hierarchy) : List Method :=
  h.classes.filterMap fun c =>
    if c.loader.isApplication then
      (c.method? mainSelector).filter fun m => m.isStatic && m.hasBody
    else none

end Hierarchy

end TaintFlow
