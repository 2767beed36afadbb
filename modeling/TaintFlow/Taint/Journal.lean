/-
Module: TaintFlow.Taint.Journal
Purpose: What an analysis tells about its progress. The journal lists the events of the stages in order,
  up to the point where the analysis ended.
Main exports: Scope.journal, Taint.Run.journal
-/
import TaintFlow.Journal
import TaintFlow.Taint.Report

namespace TaintFlow

/-- The events while the scope of an analysis is read. -/
def Scope.journal (exclusions : Option Scope.Input) (dump : Scope.Input) : List Event :=
  let (source, patterns) := Scope.exclusionsFrom exclusions
  match patterns with
  | .error _ => []
  | .ok e =>
      ⟨.debug, .scope, s!"Loaded {e.patterns.length} exclusion patterns from " ++ source⟩ ::
        if dump.entry.isFile then
          [⟨.info, .scope, "Reading program dump " ++ File.normalize dump.path⟩]
        else []

namespace Taint

/-- A point in the course of an analysis: something happens, or the analysis ends. -/
abbrev Moment := Except Fault Event

/-- An event of the analysis itself. -/
def progress (text : String) : Moment := .ok ⟨.info, .pipeline, text⟩

namespace Run

/-- Building the hierarchy and the call graph. -/
def buildMoments (r : Run) : List Moment :=
  let warning := if r.entries.isEmpty then
      [.ok ⟨.warning, .engine, "No application main methods found; the call graph will be empty"⟩]
    else []
  let built : List Moment := match r.solution with
    | .ok s =>
        s.notices.map (fun n => .ok ⟨.debug, .engine, n.message⟩) ++
          [.ok ⟨.info, .engine, s!"Call graph: {s.graph.nodes.length} nodes, " ++
            s!"{s.graph.edges.length} edges after {s.rounds} iterations"⟩]
    | .error fault =>
        (match fault with
          | .crashed _ reason =>
              [.ok ⟨.error, .pipeline, "Call graph construction failed: " ++ reason⟩]
          | .reported _ _ => []) ++ [.error (.engine fault)]
  [progress "Building hierarchy",
   .ok ⟨.debug, .hierarchy, s!"Class hierarchy: {r.hierarchy.classes.length} classes loaded, " ++
     s!"{r.hierarchy.excluded.length} excluded"⟩] ++
    warning ++
    [progress ("Building call graph (" ++ r.config.algorithm.name ++ ")")] ++ built

/-- Finding the sources. -/
def sourceMoments (r : Run) : List Moment :=
  progress "Collecting taint source implementors" ::
    r.findings.flatMap fun f =>
      [.ok ⟨.info, .sources, "Collecting subclass methods for " ++ f.pattern.base⟩,
       match f.outcome with
        | .ok found =>
            .ok ⟨.debug, .sources, f.pattern.text ++ s!": {found.length} implementors"⟩
        | .error reason => .error (.unresolved reason)]

/-- Finding the callers of the sources. -/
def callerMoments (r : Run) : List Moment :=
  progress "Collecting callers of taint sources in application" ::
    r.callers.map fun row =>
      .ok ⟨.debug, .pipeline, row.1.text ++ s!": {row.2.length} application callers"⟩

/-- Finding the calls in one caller. -/
def searchMoments (s : Search) : List Moment :=
  .ok ⟨.debug, .callSites,
    "Looking for call to " ++ s.source.text ++ " in " ++ s.caller.signature.text⟩ ::
    match s.outcome with
    | .ok found => found.map fun site =>
        .ok ⟨.debug, .callSites, "Found call site for " ++ s.source.text ++ s!" at {site.index}"⟩
    | .error reason => [.error (.search reason)]

/-- Finding the calls of the sources. -/
def siteMoments (r : Run) : List Moment :=
  progress "Collecting call sites for taint sources" :: r.searches.flatMap searchMoments

/-- Deriving the criteria. -/
def criterionMoments (r : Run) : List Moment :=
  progress s!"Deriving criteria for {r.derivations.length} call sites" ::
    r.voidReturns.map fun v =>
      match r.config.policy with
      | .abort => .error (.voidReturn v)
      | .isolate =>
          let failure : Failure := { stage := .criterion, cause := v }
          .ok ⟨.warning, .pipeline, "Skipping failed item: " ++ failure.text⟩

/-- Does a slice lead through an actual parameter? -/
def meetsCall (s : SliceRecord) : Bool :=
  s.statements.any fun
    | .actual _ _ _ => true
    | _ => false

/-- Slicing. The summaries are found when the first slice comes to the parameter of a call. -/
def sliceMoments (r : Run) : List SliceRecord → List Moment
  | [] => []
  | s :: rest =>
      let criterion := s.criterion.text r.dependences.graph
      let summaries := r.config.options.enables .summary && meetsCall s
      progress ("Computing slice for " ++ criterion) ::
        (if summaries then
          [.ok ⟨.debug, .dependence,
            s!"Summary edges: {r.dependences.shortcuts.length} after {r.dependences.rounds} rounds"⟩]
        else []) ++
        [.ok ⟨.debug, .slicer, "Slice from " ++ criterion ++ s!": {s.statements.length} statements"⟩] ++
        (if summaries then rest.flatMap (plain r) else sliceMoments r rest)
where
  /-- Slicing after the summaries were found. -/
  plain (r : Run) (s : SliceRecord) : List Moment :=
    let criterion := s.criterion.text r.dependences.graph
    [progress ("Computing slice for " ++ criterion),
     .ok ⟨.debug, .slicer, "Slice from " ++ criterion ++ s!": {s.statements.length} statements"⟩]

/-- The end of an analysis. -/
def lastMoment (r : Run) : Moment :=
  progress (s!"Collected {totalSize r.slices} statements in {r.slices.length} slices " ++
    s!"({r.voidReturns.length} failures)")

/-- The course of an analysis, if it were not ended. -/
def moments (r : Run) : List Moment :=
  r.buildMoments ++ r.sourceMoments ++ r.callerMoments ++ r.siteMoments ++ r.criterionMoments ++
    r.sliceMoments r.slices ++ [r.lastMoment]

/-- The events before an analysis ended. -/
def journal (r : Run) : List Event := upToEnd r.moments
where
  /-- The events before the first end. -/
  upToEnd : List Moment → List Event
    | .ok e :: rest => e :: upToEnd rest
    | _ => []

end Run

end Taint

end TaintFlow
