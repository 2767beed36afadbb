/-
Module: TaintFlow.CommandLine.Command
Purpose: The command as a function of its arguments and of what stands at the path it is given. Exit
  status zero means success, one that the analysis failed, and two that the arguments or the dump
  cannot be used.
Main exports: CommandLine.Outcome, CommandLine.plan, CommandLine.perform
-/
import TaintFlow.CommandLine.Help
import TaintFlow.Taint.Journal

namespace TaintFlow.CommandLine

/-- How a command ends: its exit status and what it writes. After its output stands the time it took,
    if that belongs to an algorithm. A command may also break off, for a reason that it does not
    report itself. -/
structure Outcome where
  status : Nat
  output : String := ""
  timed : Option Algorithm := none
  log : String := ""
  brokenOff : Option Breakdown := none
deriving DecidableEq, Repr, Inhabited

/-- The whole output, given the text of the time it took. -/
def Outcome.fullOutput (o : Outcome) (elapsed : String) : String :=
  match o.timed with
  | none => o.output
  | some a => o.output ++ "\n\t" ++ a.name ++ ": " ++ elapsed ++ " ms\n"

/-- What to do about some arguments, or how the command ends without doing anything. -/
def plan (arguments : List String) : Except Outcome Request :=
  match parse arguments with
  | .ok request => .ok request
  | .error .help => .error { status := 0, output := help }
  | .error (.usage fault) => .error { status := 2, log := usageError fault }

/-- Is an event told at a verbosity? Warnings always are. -/
def isTold (verbosity : Nat) (e : Event) : Bool := 2 ≤ e.level.weight + verbosity

/-- The log lines of the events that are told at a verbosity. -/
def logText (verbosity : Nat) (events : List Event) : String :=
  String.join ((events.filter (isTold verbosity)).map fun e => e.line ++ "\n")

/-- The exit status for a failure: two for matters of configuration, one for all others. -/
def statusFor (d : Diagnostic) : Nat := if d.kind.isA .configuration then 2 else 1

/-- How a command ends that failed after some events. -/
def failed (verbosity : Nat) (events : List Event) (d : Diagnostic) : Outcome :=
  { status := statusFor d
    log := logText verbosity (events ++ [⟨.error, .program, d.text⟩]) }

/-- How a command ends that broke off after some events. -/
def brokeOff (verbosity : Nat) (events : List Event) (reason : Breakdown) : Outcome :=
  { status := 1, log := logText verbosity events, brokenOff := some reason }

/-- How a command ends that succeeded. -/
def succeeded (verbosity : Nat) (events : List Event) (report : Taint.Report) : Outcome :=
  { status := 0
    output := s!"Collected {report.statementCount} statements in slices\n"
    timed := some report.algorithm
    log := logText verbosity events }

/-- Do what was asked for, given what stands at the place of the target. -/
def perform (request : Request) (dump : Scope.Input) : Outcome :=
  match Algorithm.ofName request.analysis with
  | .error unknown => failed request.verbosity [] unknown.diagnostic
  | .ok algorithm =>
      let events := Scope.journal none dump
      match Scope.load none dump with
      | .error fault =>
          match fault.diagnostic with
          | .ok d => failed request.verbosity events d
          | .error reason => brokeOff request.verbosity events reason
      | .ok scope =>
          let run := Taint.Run.make { algorithm } scope Taint.Engine.standard .asFound
          let events := events ++ run.journal
          match run.report with
          | .error fault => failed request.verbosity events fault.diagnostic
          | .ok report => succeeded request.verbosity events report

end TaintFlow.CommandLine
