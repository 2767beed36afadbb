/-
Module: TaintFlow.Breakdown
Purpose: Failures that the program does not report as diagnostics. It breaks off instead.
Main exports: Breakdown, Breakdown.message
-/
import TaintFlow.Text.Quoted

namespace TaintFlow

/-- Why the program breaks off: a path begins with a home directory that is unknown or is longer than a
    path can be; a pattern counts further than counts go, in too many digits, has two alphabets or looks
    too far behind; or a group of what it matches ends before it starts. -/
inductive Breakdown where
  | unknownHome
  | overlongPath (path : String)
  | countTooLarge
  | overlongCount (digits : Nat)
  | twoAlphabets
  | farLookBehind
  | invertedGroup
deriving DecidableEq, Repr, Inhabited

/-- The text of the reason. -/
def Breakdown.message : Breakdown → String
  | .unknownHome => "Could not determine home directory."
  | .overlongPath path => "[Errno 36] File name too long: " ++ Text.quote path
  | .countTooLarge => "the repetition number is too large"
  | .overlongCount digits =>
      s!"Exceeds the limit (4300 digits) for integer string conversion: value has {digits} digits; " ++
        "use sys.set_int_max_str_digits() to increase the limit"
  | .twoAlphabets => "ASCII and UNICODE flags are incompatible"
  | .farLookBehind => "invalid SRE code"
  | .invertedGroup =>
      "The span of capturing group is wrong, please report a bug for the re module."

end TaintFlow
