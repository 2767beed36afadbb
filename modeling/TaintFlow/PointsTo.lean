/-
Module: TaintFlow.PointsTo
Purpose: Which objects a location may hold. Objects are abstract: all objects of a type, or all objects
  made by one allocation. Locations and the objects of each are kept in the order in which they were
  first entered.
Main exports: AbstractObject, Location, PointsTo, PointsTo.get, PointsTo.add
-/
import TaintFlow.Instruction

namespace TaintFlow

/-- The number of an activation node in a call graph. -/
abbrev NodeId := Nat

/-- A set of run-time objects that the analysis does not tell apart: those of a type, or those of a
    type that one instruction of a method allocates. An index need not belong to a body. -/
inductive AbstractObject where
  | ofType (type : TypeName)
  | allocatedAt (method : Signature) (index : Int) (type : TypeName)
deriving DecidableEq, Repr, Inhabited

namespace AbstractObject

/-- The type of the objects. -/
def type : AbstractObject → TypeName
  | .ofType t => t
  | .allocatedAt _ _ t => t

/-- The text of an abstract object. -/
def text : AbstractObject → String
  | .ofType t => "<" ++ t ++ ">"
  | .allocatedAt m i t => "<" ++ t ++ " @ " ++ m.text ++ ":" ++ toString i ++ ">"

end AbstractObject

/-- A place that holds references. Fields are told apart by name only, since an access may name a
    subclass of the class that declares the field. Nodes and values are integers here: a map may be
    asked about any number, also one that no graph and no body gives out. -/
inductive Location where
  | value (node v : Int)
  | returned (node : Int)
  | field (object : AbstractObject) (name : String)
  | static (field : FieldRef)
  | element (object : AbstractObject)
deriving DecidableEq, Repr, Inhabited

/-- The text of a location, given the names of the activations. -/
def Location.text (activation : Int → String) : Location → String
  | .value n v => "local " ++ activation n ++ s!" v{v}"
  | .returned n => "return " ++ activation n
  | .field o name => "field " ++ o.text ++ " " ++ name
  | .static f => "static " ++ f.text
  | .element o => "array " ++ o.text

/-- What each location may hold. Only locations that may hold something are listed. -/
structure PointsTo where
  entries : List (Location × List AbstractObject) := []
deriving DecidableEq, Repr, Inhabited

namespace PointsTo

/-- The objects that a location may hold. -/
def get (p : PointsTo) (l : Location) : List AbstractObject := (p.entries.lookup l).getD []

/-- Append the objects that are new, each once. -/
def merge (held incoming : List AbstractObject) : List AbstractObject :=
  incoming.foldl (fun held o => if held.contains o then held else held ++ [o]) held

/-- Enter objects at a location of a list of entries. -/
def enter (l : Location) (incoming : List AbstractObject) :
    List (Location × List AbstractObject) → List (Location × List AbstractObject)
  | [] => [(l, merge [] incoming)]
  | (l', held) :: rest =>
      if l' = l then (l', merge held incoming) :: rest else (l', held) :: enter l incoming rest

/-- Let a location hold further objects. -/
def add (p : PointsTo) (l : Location) (incoming : List AbstractObject) : PointsTo :=
  if incoming.isEmpty then p else { entries := enter l incoming p.entries }

/-- The number of facts: pairs of a location and an object that it may hold. -/
def size (p : PointsTo) : Nat := (p.entries.flatMap Prod.snd).length

/-- The locations that may hold something. -/
def locations (p : PointsTo) : List Location := p.entries.map Prod.fst

/-- The objects that some location may hold, each once. -/
def objects (p : PointsTo) : List AbstractObject := (p.entries.flatMap Prod.snd).eraseDups

/-- May two values hold the same object? -/
def mayAlias (p : PointsTo) (n v m w : Int) : Bool :=
  (p.get (.value n v)).any fun o => (p.get (.value m w)).contains o

/-- One line about a points-to map. -/
def summary (p : PointsTo) : String :=
  s!"PointsToResult({p.locations.length} pointer keys, {p.objects.length} objects)"

end PointsTo

end TaintFlow
