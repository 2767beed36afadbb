/-
Module: TaintFlow.Pattern.Fault
Purpose: What can be wrong with the text of a pattern, and how it is told.
Main exports: Pattern.Cause, Pattern.Fault, Pattern.Fault.message
-/
import TaintFlow.Breakdown

namespace TaintFlow.Pattern

/-- What is wrong with the text of a pattern. -/
inductive Cause where
  | cutEscape
  | badEscape (text : String)
  | incompleteEscape (text : String)
  | octalEscape (text : String)
  | unnamedCharacter
  | unknownCharacter (name : String)
  | openSet
  | badRange (low high : String)
  | nothingToRepeat
  | repeatedTwice
  | bounds
  | openGroup
  | unopenedGroup
  | cutExtension
  | unknownExtension (mark : String)
  | openComment
  | missingName (what : String)
  | openName (mark : Char)
  | badName (name : String)
  | unknownName (name : String)
  | takenName (name : String) (number earlier : Nat)
  | zeroReference
  | unknownReference (number : Nat)
  | openReference
  | referenceBehind
  | thirdBranch
  | variableLookBehind
  | templateRepeat (operator : String)
  | lateFlags
  | localeFlag
  | mixedFlags
  | unendedFlags
  | unknownFlag
  | missingFlag
  | missingColon
  | globalFlagOn
  | globalFlagOff
  | lockedFlag
  | contradictoryFlag
  | breakdown (reason : Breakdown)
deriving DecidableEq, Repr, Inhabited

/-- The wording of a cause. -/
def Cause.message : Cause → String
  | .cutEscape => "bad escape (end of pattern)"
  | .badEscape text => "bad escape " ++ text
  | .incompleteEscape text => "incomplete escape " ++ text
  | .octalEscape text => "octal escape value " ++ text ++ " outside of range 0-0o377"
  | .unnamedCharacter => "missing \x7b"
  | .unknownCharacter name => "undefined character name " ++ Text.quote name
  | .openSet => "unterminated character set"
  | .badRange low high => "bad character range " ++ low ++ "-" ++ high
  | .nothingToRepeat => "nothing to repeat"
  | .repeatedTwice => "multiple repeat"
  | .bounds => "min repeat greater than max repeat"
  | .openGroup => "missing ), unterminated subpattern"
  | .unopenedGroup => "unbalanced parenthesis"
  | .cutExtension => "unexpected end of pattern"
  | .unknownExtension mark => "unknown extension ?" ++ mark
  | .openComment => "missing ), unterminated comment"
  | .missingName what => "missing " ++ what
  | .openName mark => "missing " ++ String.singleton mark ++ ", unterminated name"
  | .badName name => "bad character in group name " ++ Text.quote name
  | .unknownName name => "unknown group name " ++ Text.quote name
  | .takenName name number earlier =>
      "redefinition of group name " ++ Text.quote name ++
        s!" as group {number}; was group {earlier}"
  | .zeroReference => "bad group number"
  | .unknownReference number => s!"invalid group reference {number}"
  | .openReference => "cannot refer to an open group"
  | .referenceBehind => "cannot refer to group defined in the same lookbehind subpattern"
  | .thirdBranch => "conditional backref with more than two branches"
  | .variableLookBehind => "look-behind requires fixed-width pattern"
  | .templateRepeat operator => "internal: unsupported template operator " ++ operator
  | .lateFlags => "global flags not at the start of the expression"
  | .localeFlag => "bad inline flags: cannot use 'L' flag with a str pattern"
  | .mixedFlags => "bad inline flags: flags 'a', 'u' and 'L' are incompatible"
  | .unendedFlags => "missing -, : or )"
  | .unknownFlag => "unknown flag"
  | .missingFlag => "missing flag"
  | .missingColon => "missing :"
  | .globalFlagOn => "bad inline flags: cannot turn on global flag"
  | .globalFlagOff => "bad inline flags: cannot turn off global flag"
  | .lockedFlag => "bad inline flags: cannot turn off flags 'a', 'u' and 'L'"
  | .contradictoryFlag => "bad inline flags: flag turned on and off"
  | .breakdown reason => reason.message

/-- A cause and its position in the text, if it has one. -/
structure Fault where
  cause : Cause
  position : Option Nat
deriving DecidableEq, Repr, Inhabited

/-- A position in words: as line and column too when the text has more than one line. -/
def placeText (text : String) (position : Nat) : String :=
  let before := text.toList.take position
  let line := before.count '\n' + 1
  let column := (before.reverse.takeWhile (· ≠ '\n')).length + 1
  s!" at position {position}" ++
    (if text.toList.contains '\n' then s!" (line {line}, column {column})" else "")

/-- The diagnostic for a fault of a text. -/
def Fault.message (text : String) (f : Fault) : String :=
  f.cause.message ++ match f.position with
    | some position => placeText text position
    | none => ""

/-- A fault of the pattern as a whole. -/
def Cause.fault (cause : Cause) : Fault := { cause, position := none }

/-- Stop reading with a fault at a position. -/
def faultAt {α : Type} (position : Nat) (cause : Cause) : Except Fault α :=
  .error { cause, position := some position }

end TaintFlow.Pattern
