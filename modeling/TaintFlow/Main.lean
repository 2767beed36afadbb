/-
Module: TaintFlow.Main
Purpose: The program. It reads the file that its arguments name and writes what the command answers.
Main exports: main
-/
import TaintFlow.CommandLine.Command

open TaintFlow

/-- The home directories that the system knows. -/
def readHomes : IO File.Homes := do
  let own ← IO.getEnv "HOME"
  let accounts ← try IO.FS.lines "/etc/passwd" catch _ => pure #[]
  return File.Homes.ofAccounts own accounts.toList

/-- What stands at a path; whatever cannot be read counts as missing. -/
def readEntry (path : String) : IO File.Entry := do
  try
    let bytes ← IO.FS.readBinFile path
    return .file bytes
  catch
    | .invalidArgument _ 36 _ => return .unlocatable (.overlongPath path)
    | _ => return .missing

/-- The place that a path leads to, and what stands there. -/
def readInput (path : String) : IO Scope.Input := do
  match File.locate (← readHomes) path with
  | .ok path => return { path, entry := ← readEntry path }
  | .error reason => return { path, entry := .unlocatable reason }

/-- Run the command. The log is written before the time is taken, since it tells about all the work. -/
def main (arguments : List String) : IO UInt32 := do
  let start ← IO.monoMsNow
  let outcome ← match CommandLine.plan arguments with
    | .error outcome => pure outcome
    | .ok request => do
        let dump ← readInput request.target
        pure (CommandLine.perform request dump)
  IO.eprint outcome.log
  if let some reason := outcome.brokenOff then IO.eprintln reason.message
  let finish ← IO.monoMsNow
  IO.print (outcome.fullOutput (toString (finish - start)))
  return UInt32.ofNat outcome.status
