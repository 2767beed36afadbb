/-
Module: TaintFlow.Diagnostic
Purpose: What a user is told when something fails. A diagnostic has a kind, a message, and perhaps a
  subject, the file it was found in and a count. Kinds form a tree: a malformed dump is a matter of
  configuration, and both ways in which calls and code can disagree are internal inconsistencies.
Main exports: Diagnostic.Kind, Diagnostic, Diagnostic.text
-/

namespace TaintFlow

/-- The kinds of failure. -/
inductive Diagnostic.Kind where
  | general
  | configuration
  | malformedDump
  | unresolvedType
  | voidReturn
  | inconsistency
  | callSiteNotFound
  | ambiguousCallSite
  | engine
deriving DecidableEq, Repr, Inhabited

namespace Diagnostic.Kind

/-- The name of a kind in records. -/
def name : Kind → String
  | .general => "slicer-error"
  | .configuration => "configuration"
  | .malformedDump => "program-dump"
  | .unresolvedType => "unresolved-type"
  | .voidReturn => "void-return"
  | .inconsistency => "internal-consistency"
  | .callSiteNotFound => "call-site-not-found"
  | .ambiguousCallSite => "ambiguous-call-site"
  | .engine => "engine"

/-- The kinds a kind falls under, itself first. -/
def lineage : Kind → List Kind
  | .general => [.general]
  | .configuration => [.configuration, .general]
  | .malformedDump => [.malformedDump, .configuration, .general]
  | .unresolvedType => [.unresolvedType, .general]
  | .voidReturn => [.voidReturn, .general]
  | .inconsistency => [.inconsistency, .general]
  | .callSiteNotFound => [.callSiteNotFound, .inconsistency, .general]
  | .ambiguousCallSite => [.ambiguousCallSite, .inconsistency, .general]
  | .engine => [.engine, .general]

/-- Does `kind` fall under `other`? -/
def isA (kind other : Kind) : Bool := kind.lineage.contains other

end Diagnostic.Kind

/-- A failure as it is shown and recorded. -/
structure Diagnostic where
  kind : Diagnostic.Kind
  message : String
  subject : Option String := none
  file : Option String := none
  count : Int := 0
deriving DecidableEq, Repr, Inhabited

namespace Diagnostic

/-- A text in brackets after a blank, unless it is missing or empty. -/
def suffix (subject : Option String) : String :=
  match subject with
  | none => ""
  | some "" => ""
  | some s => " [" ++ s ++ "]"

/-- A file name and a colon, unless it is missing or empty. -/
def fileLabel (file : Option String) : String :=
  match file with
  | none => ""
  | some "" => ""
  | some f => f ++ ": "

/-- The line a user sees. -/
def text (d : Diagnostic) : String :=
  fileLabel d.file ++ d.message ++ suffix d.subject

end Diagnostic

end TaintFlow
