/-
Module: TaintFlow.CommandLine.Help
Purpose: What the program tells about its own use.
Main exports: CommandLine.usage, CommandLine.help
-/
import TaintFlow.CommandLine.Arguments

namespace TaintFlow.CommandLine

/-- The name of the program. -/
def programName : String := "taint-slicer"

/-- The usage line. -/
def usage : String := "usage: " ++ programName ++ " [-h] [-v] target analysis\n"

/-- What an algorithm does, in a few words. -/
def describe : Algorithm → String
  | .plain => "context-insensitive, one object per type"
  | .callSite => "one level of call-site context"
  | .container => "receiver contexts for container methods"

/-- The line about an algorithm. -/
def algorithmLine (a : Algorithm) : String :=
  "  " ++ String.ofList (Text.padRight ' ' 16 a.name.toList) ++ " " ++ describe a

/-- The help text. -/
def help : String :=
  usage ++ "\n" ++ String.intercalate "\n" (
    ["Compute forward slices from every application call to a taint source (InputStream.read*).",
     "",
     "positional arguments:",
     "  target         Program dump (S-expression) of the application to analyse.",
     "  analysis       Call-graph construction algorithm: 0cfa, vanilla-1cfa,",
     "                 container-1cfa.",
     "",
     "options:",
     "  -h, --help     show this help message and exit",
     "  -v, --verbose  Increase log verbosity (-v progress, -vv debug).",
     "",
     "analyses:"] ++
    Algorithm.all.map algorithmLine ++
    ["",
     "example:",
     "  " ++ programName ++ " app.sexp " ++ Algorithm.plain.name,
     ""])

/-- The text for arguments that cannot be used. -/
def usageError (fault : UsageFault) : String :=
  usage ++ programName ++ ": error: " ++ fault.message ++ "\n"

end TaintFlow.CommandLine
