/-
Module: TaintFlow.Catalogue
Purpose: What the program tells about itself to those who build on it: its version, the components it
  consists of and the names that they offer.
Main exports: Catalogue.version, Catalogue.components, Catalogue.componentNames, Catalogue.offered
-/
import TaintFlow.Diagnostic

namespace TaintFlow

namespace Diagnostic.Kind

/-- Every kind of failure. -/
def all : List Kind :=
  [.general, .configuration, .malformedDump, .unresolvedType, .voidReturn, .inconsistency,
    .callSiteNotFound, .ambiguousCallSite, .engine]

/-- The name under which failures of a kind can be caught. -/
def offeredName : Kind → String
  | .general => "SlicerError"
  | .configuration => "ConfigurationError"
  | .malformedDump => "ProgramDumpError"
  | .unresolvedType => "UnresolvedTypeError"
  | .voidReturn => "VoidReturnError"
  | .inconsistency => "InternalConsistencyError"
  | .callSiteNotFound => "CallSiteNotFoundError"
  | .ambiguousCallSite => "AmbiguousCallSiteError"
  | .engine => "EngineError"

/-- The kind of failure that a name stands for. -/
def ofOfferedName? (s : String) : Option Kind := all.find? fun kind => kind.offeredName == s

end Diagnostic.Kind

namespace Catalogue

/-- The version of the program. -/
def version : String := "0.1.0"

/-- A component of the program and the names it offers. -/
structure Component where
  name : String
  offers : List String
deriving DecidableEq, Repr, Inhabited

/-- The components, in the order in which they are loaded. -/
def components : List Component :=
  [{ name := "errors", offers := Diagnostic.Kind.all.map Diagnostic.Kind.offeredName },
    { name := "references", offers := ["MethodSignature", "FieldReference", "ClassLoaderKind"] },
    { name := "program_dump", offers := ["Program", "load_program", "parse_program"] },
    { name := "class_hierarchy", offers := ["ClassHierarchy"] },
    { name := "callgraph", offers := ["CallGraph", "CallGraphNode"] },
    { name := "pointer_analysis", offers := ["PointsToResult"] },
    { name := "engine", offers := ["AnalysisAlgorithm", "PropagationEngine"] },
    { name := "statements", offers := ["Statement", "StatementKind"] },
    { name := "dependency_graph"
      offers := ["DataDependenceOptions", "ControlDependenceOptions", "SystemDependenceGraph"] },
    { name := "slicer", offers := ["ForwardSlicer", "compute_forward_slice"] },
    { name := "sources", offers := ["TaintSourcePattern", "find_implementors"] },
    { name := "call_sites", offers := ["find_application_callers", "find_call_sites"] },
    { name := "criteria", offers := ["derive_return_criterion"] },
    { name := "config", offers := ["AnalysisScope", "FailurePolicy", "SlicerConfig", "load_exclusions"] },
    { name := "pipeline"
      offers := ["PipelineResult", "SlicingPipeline", "StageFailure", "run_pipeline"] }]

/-- The names that belong to no component: the list of components and the version. -/
def ownNames : List String := ["list_submodules", "__version__"]

/-- The names of the components, sorted. -/
def componentNames : List String :=
  (components.map Component.name).mergeSort fun a b => a ≤ b

/-- All names on offer, sorted. -/
def offered : List String :=
  (components.flatMap Component.offers ++ ownNames).mergeSort fun a b => a ≤ b

end Catalogue

end TaintFlow
