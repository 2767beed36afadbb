/-
Module: TaintFlow.Journal
Purpose: Events worth telling while the program works, and the log lines they are told in.
Main exports: Level, Area, Event, Event.line
-/
import TaintFlow.Text.Quoted

namespace TaintFlow

/-- How much an event matters. -/
inductive Level where
  | debug
  | info
  | warning
  | error
deriving DecidableEq, Repr, Inhabited

namespace Level

/-- The name of a level. -/
def name : Level → String
  | .debug => "DEBUG"
  | .info => "INFO"
  | .warning => "WARNING"
  | .error => "ERROR"

/-- The weight of a level. -/
def weight : Level → Nat
  | .debug => 0
  | .info => 1
  | .warning => 2
  | .error => 3

end Level

/-- The part of the program that an event comes from. -/
inductive Area where
  | program
  | scope
  | hierarchy
  | engine
  | dependence
  | slicer
  | sources
  | callSites
  | pipeline
deriving DecidableEq, Repr, Inhabited

/-- The name of an area in log lines. -/
def Area.name : Area → String
  | .program => "taint_slicer"
  | .scope => "taint_slicer.config"
  | .hierarchy => "taint_slicer.class_hierarchy"
  | .engine => "taint_slicer.engine"
  | .dependence => "taint_slicer.dependency_graph"
  | .slicer => "taint_slicer.slicer"
  | .sources => "taint_slicer.sources"
  | .callSites => "taint_slicer.call_sites"
  | .pipeline => "taint_slicer.pipeline"

/-- Something worth telling. -/
structure Event where
  level : Level
  area : Area
  text : String
deriving DecidableEq, Repr, Inhabited

/-- The log line of an event. The level takes five columns. -/
def Event.line (e : Event) : String :=
  let level := String.ofList (Text.padRight ' ' 5 (e.level.name.toList.take 5))
  "[" ++ level ++ "] " ++ e.area.name ++ ": " ++ e.text

end TaintFlow
