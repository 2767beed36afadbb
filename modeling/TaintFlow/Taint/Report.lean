/-
Module: TaintFlow.Taint.Report
Purpose: What an analysis found. A class that is not loaded, a broken engine, and a call graph that the
  code contradicts end an analysis; a call without a result ends it or is recorded, as the policy says.
Main exports: Taint.Fault, Taint.Failure, Taint.Report, Taint.Run.report, Taint.analyse
-/
import TaintFlow.Taint.Run

namespace TaintFlow.Taint

/-- Why an analysis ended. -/
inductive Fault where
  | engine (reason : EngineFault)
  | unresolved (reason : Hierarchy.Unresolved)
  | search (reason : SearchFault)
  | voidReturn (reason : VoidReturn)
deriving Repr, Inhabited

/-- A fault as it is shown. -/
def Fault.diagnostic : Fault → Diagnostic
  | .engine reason => reason.diagnostic
  | .unresolved reason => reason.diagnostic
  | .search reason => reason.diagnostic
  | .voidReturn reason => reason.diagnostic

/-- The stages that treat items one by one. -/
inductive Stage where
  | callSites
  | criterion
  | slice
deriving DecidableEq, Repr, Inhabited

/-- The name of a stage. -/
def Stage.name : Stage → String
  | .callSites => "call-sites"
  | .criterion => "criterion"
  | .slice => "slice"

/-- The line about a failure in a stage: the stage, the kind, the message and the subject. -/
def failureText (stage : String) (d : Diagnostic) : String :=
  stage ++ ": " ++ d.kind.name ++ ": " ++ d.message ++ Diagnostic.suffix d.subject

/-- An item that failed and was recorded. -/
structure Failure where
  stage : Stage
  cause : VoidReturn
deriving DecidableEq, Repr, Inhabited

/-- The text of a recorded failure. -/
def Failure.text (f : Failure) : String := failureText f.stage.name f.cause.diagnostic

/-- What an analysis found. -/
structure Report where
  algorithm : Algorithm
  /-- The methods that tainted data comes from. -/
  sources : List Signature
  /-- Those of them that the application calls, with their callers. -/
  callers : List (Signature × List Node)
  sites : List SiteRecord
  criteria : List Statement
  slices : List SliceRecord
  failures : List Failure
deriving Repr, Inhabited

/-- The statements of all slices, one slice after the other; statements that slices share are repeated. -/
def Report.statements (r : Report) : List Statement := r.slices.flatMap SliceRecord.statements

/-- The sizes of some slices, added up. -/
def totalSize (slices : List SliceRecord) : Nat :=
  slices.foldr (fun s count => s.statements.length + count) 0

/-- The sizes of all slices, added up. -/
def Report.statementCount (r : Report) : Nat := totalSize r.slices

/-- The first error among some outcomes, if any. -/
def firstError {ε α : Type} : List (Except ε α) → Except ε Unit
  | [] => .ok ()
  | .ok _ :: rest => firstError rest
  | .error e :: _ => .error e

namespace Run

/-- The calls for which there is no criterion. -/
def voidReturns (r : Run) : List VoidReturn :=
  r.derivations.filterMap fun d =>
    match d.outcome with
    | .ok _ => none
    | .error v => some v

/-- What an analysis found, if nothing ended it. -/
def found (r : Run) : Report :=
  { algorithm := r.config.algorithm
    sources := foundSources r.findings
    callers := r.callers
    sites := foundSites r.searches
    criteria := r.derivations.filterMap fun d => d.outcome.toOption
    slices := r.slices
    failures := r.voidReturns.map fun v => { stage := .criterion, cause := v } }

/-- What an analysis found, or why it ended. -/
def report (r : Run) : Except Fault Report := do
  let _ ← r.solution.mapError .engine
  (firstError (r.findings.map Finding.outcome)).mapError .unresolved
  (firstError (r.searches.map Search.outcome)).mapError .search
  if r.config.policy = .abort then
    (firstError (r.derivations.map Derivation.outcome)).mapError .voidReturn
  .ok r.found

end Run

/-- Analyse what is in scope with the standard engine. -/
def analyse (config : Config) (scope : Scope) (en : Enumeration) : Except Fault Report :=
  (Run.make config scope Engine.standard en).report

end TaintFlow.Taint
