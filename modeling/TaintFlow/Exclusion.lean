/-
Module: TaintFlow.Exclusion
Purpose: Which classes are left out of an analysis. An exclusion list has a pattern on each line that is
  neither blank nor a comment; a class is left out when a pattern matches the beginning of its name
  without the leading `L`.
Main exports: Exclusions, Exclusions.ofLines, Exclusions.load, Exclusions.standard, Exclusions.judge,
  Exclusions.excludes
-/
import TaintFlow.Descriptor
import TaintFlow.Diagnostic
import TaintFlow.File
import TaintFlow.Pattern.Reader

namespace TaintFlow

/-- Patterns of class names. -/
structure Exclusions where
  patterns : List Pattern.Expression := []
deriving Repr, Inhabited

namespace Exclusions

/-- Why an exclusion list cannot be used. -/
inductive Fault where
  | pattern (source line : String) (number : Nat) (reason : Pattern.Fault)
  | unreadable (source : String) (reason : File.Fault)
deriving Repr, Inhabited

/-- A fault as it is shown, unless it is one to break off for. -/
def Fault.diagnostic : Fault → Except Breakdown Diagnostic
  | .pattern _ _ _ { cause := .breakdown reason, .. } => .error reason
  | .pattern source line number reason =>
      .ok
        { kind := .configuration
          message := "invalid exclusion pattern " ++ Text.quote line ++ s!" on line {number}: " ++
            reason.message line
          subject := some source }
  | .unreadable source reason =>
      .ok
        { kind := .configuration
          message := "cannot read exclusions file: " ++ reason.message
          subject := some source }

/-- Does a line hold no pattern? -/
def isIdle (line : String) : Bool := line.toList.head?.all (· = '#')

/-- The patterns on lines numbered from `number` on. -/
def patternsFrom (source : String) (number : Nat) :
    List String → Except Fault (List Pattern.Expression)
  | [] => .ok []
  | raw :: rest => do
      let line := Text.trim raw
      if isIdle line then patternsFrom source (number + 1) rest
      else match Pattern.read line with
        | .error reason => .error (.pattern source line number reason)
        | .ok expression =>
            let later ← patternsFrom source (number + 1) rest
            .ok (expression :: later)

/-- The exclusions that the lines of a source list. -/
def ofLines (source : String) (lines : List String) : Except Fault Exclusions := do
  let patterns ← patternsFrom source 1 lines
  .ok { patterns }

/-- The exclusions in a file. -/
def load (path : String) (entry : File.Entry) : Except Fault Exclusions :=
  match File.text (File.normalize path) entry with
  | .error reason => .error (.unreadable path reason)
  | .ok text => ofLines path (Text.lines text)

/-- A class name without the leading `L`. -/
def bareName (t : TypeName) : String :=
  match t.toList with
  | 'L' :: rest => String.ofList rest
  | _ => t

/-- Does one of the patterns match, the first of them to be tried first? -/
def judgeAll (name : String) : List Pattern.Expression → Except Breakdown Bool
  | [] => .ok false
  | p :: rest =>
      match p.outcome name with
      | .matched => .ok true
      | .unmatched => judgeAll name rest
      | .inverted => .error .invertedGroup

/-- Is a class left out, as far as that can be told? -/
def judge (e : Exclusions) (t : TypeName) : Except Breakdown Bool := judgeAll (bareName t) e.patterns

/-- Is a class left out? -/
def excludes (e : Exclusions) (t : TypeName) : Bool :=
  match e.judge t with
  | .ok excluded => excluded
  | .error _ => false

/-- The lines of the list that is used when no other is given: user interfaces, security and remote
    libraries, and the internals of the platform. -/
def standardLines : List String :=
  ["java/awt/.*", "javax/swing/.*", "sun/awt/.*", "sun/swing/.*", "com/sun/.*", "sun/.*",
   "org/netbeans/.*", "org/openide/.*", "com/ibm/crypto/.*", "com/ibm/security/.*",
   "org/apache/xerces/.*", "java/security/.*", "jdk/internal/.*"]

/-- The name of the standard list. -/
def standardSource : String := "taint_slicer/data/exclusions.txt"

/-- The list that is used when no other is given. -/
def standard : Except Fault Exclusions := ofLines standardSource standardLines

end Exclusions

end TaintFlow
