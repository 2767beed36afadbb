/-
Module: TaintFlow.Scope
Purpose: The program under analysis and what is left out of it, read from files. The exclusions are read
  before the dump.
Main exports: Dump.load, Scope, Scope.check, Scope.load
-/
import TaintFlow.Dump.Reader
import TaintFlow.Exclusion

namespace TaintFlow

/-- The program in a file. The path in diagnostics is in normal form. -/
def Dump.load (path : String) (entry : File.Entry) : Except Dump.Fault Program :=
  let path := File.normalize path
  match File.text path entry with
  | .ok text => Dump.read path text
  | .error reason => .error { cause := .unreadable reason.message }

/-- A program and the classes to leave out. -/
structure Scope where
  program : Program
  exclusions : Exclusions := {}
deriving Repr, Inhabited

namespace Scope

/-- Why there is nothing to analyse. -/
inductive Fault where
  | exclusions (reason : Exclusions.Fault)
  | unlocatable (reason : Breakdown)
  | missingDump (path : String)
  | dump (path : String) (reason : Dump.Fault)
deriving Repr, Inhabited

/-- A fault as it is shown, unless it is one to break off for. -/
def Fault.diagnostic : Fault → Except Breakdown Diagnostic
  | .exclusions reason => reason.diagnostic
  | .unlocatable reason => .error reason
  | .missingDump path =>
      .ok { kind := .configuration, message := "program dump not found", subject := some path }
  | .dump path reason => .ok (reason.diagnostic path)

/-- A path and what stands there. -/
structure Input where
  path : String
  entry : File.Entry
deriving Inhabited

/-- The exclusions in a file, or the standard ones, with the name of their source. -/
def exclusionsFrom : Option Input → String × Except Exclusions.Fault Exclusions
  | none => (Exclusions.standardSource, Exclusions.standard)
  | some input => (input.path, Exclusions.load input.path input.entry)

/-- The program in a file that has to exist. -/
def programFrom (dump : Input) : Except Fault Program :=
  let path := File.normalize dump.path
  match dump.entry with
  | .file _ => (Dump.load dump.path dump.entry).mapError (.dump path)
  | .unlocatable reason => .error (.unlocatable reason)
  | _ => .error (.missingDump path)

/-- Check that it can be told of every class whether it is left out. -/
def check (s : Scope) : Except Breakdown Unit :=
  s.program.classes.forM fun c => do
    let _ ← s.exclusions.judge c.name

/-- Read what to analyse. -/
def load (exclusions : Option Input) (dump : Input) : Except Fault Scope := do
  let exclusions ← (exclusionsFrom exclusions).2.mapError .exclusions
  let program ← programFrom dump
  .ok { program, exclusions }

end Scope

end TaintFlow
