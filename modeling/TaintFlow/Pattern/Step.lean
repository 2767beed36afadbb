/-
Module: TaintFlow.Pattern.Step
Purpose: Patterns as steps of a search. A step passes over characters, marks where a group starts or ends,
  or tries something; the steps of a sequence are taken one after another. Flags are settled here, so that
  a step tells all there is to know about it. Some patterns are refused: those that look behind by more
  than one length or too far, and repetitions in templates.
Main exports: Pattern.Step, Pattern.CharRun, Pattern.steps, Pattern.stepsOf
-/
import TaintFlow.Pattern.CharTest
import TaintFlow.Pattern.Fault

namespace TaintFlow.Pattern

/-- A repetition of one character. `before` is the character that has to follow, if the next step asks for
    one; `careful` tells whether a failed try takes back what groups were marked in it. -/
structure CharRun where
  manner : Manner
  test : CharTest
  least : Nat
  most : Option Nat
  before : Option Nat
  careful : Bool
deriving DecidableEq, Repr, Inhabited

/-- A step of a search. Steps that try something are careful if they take back what groups were marked in
    a failed try; inside of repetitions they are. -/
inductive Step where
  /-- Pass over one character. -/
  | char (test : CharTest)
  /-- Be at a position. -/
  | anchor (flags : Flags) (a : Anchor)
  /-- Mark the position. Group `n` starts at mark `2 * n - 2` and ends at mark `2 * n - 1`. -/
  | mark (index : Nat)
  /-- Pass over a copy of what a group holds. -/
  | again (flags : Flags) (number : Nat)
  /-- Take some steps if a group holds something, others if not. -/
  | given (number : Nat) (yes no : List Step)
  /-- Take the steps of one alternative. -/
  | choice (careful : Bool) (alternatives : List (List Step))
  /-- Pass over several characters. -/
  | several (run : CharRun)
  /-- Take the steps of a body several times. -/
  | loop (reluctant careful : Bool) (least : Nat) (most : Option Nat) (body : List Step)
  /-- Take the steps of a body as often as possible, without a second try. -/
  | firm (least : Nat) (most : Option Nat) (body : List Step)
  /-- Take the steps of a body without a second try. -/
  | once (body : List Step)
  /-- See whether the steps of a body can be taken, starting so many characters back. -/
  | look (negated : Bool) (back : Nat) (careful : Bool) (body : List Step)
deriving Repr, Inhabited

/-- The test that a pattern is, if it is one for a single character. -/
def test? (flags : Flags) : Pattern → Option CharTest
  | .any => some (.any flags.anyLine)
  | .char negated code => some (.ofChar flags negated code)
  | .oneOf negated items => some (.ofSet flags negated items)
  | .flagged changes p => test? (flags.setAll changes) p
  | _ => none

/-- The character that some steps begin with; `next` is the one that follows them. -/
def firstChar? (next : Option Nat) : List Step → Option Nat
  | [] => next
  | .char test :: _ => test.only?
  | _ => none

mutual

/-- The steps for a pattern; `next` is the character that the step after them asks for, if it asks for
    one and the last of them is followed by no other. -/
def steps (flags : Flags) (careful : Bool) (p : Pattern) (next : Option Nat) : List Step :=
  match p with
  | .empty => []
  | .never => [.choice careful []]
  | .any => [.char (.any flags.anyLine)]
  | .char negated code => [.char (.ofChar flags negated code)]
  | .oneOf negated items => [.char (.ofSet flags negated items)]
  | .anchor a => [.anchor flags a]
  | .seq p q =>
      let later := steps flags careful q next
      steps flags careful p (firstChar? next later) ++ later
  | .alt p q => [.choice careful (steps flags careful p none :: alternatives flags careful q)]
  | .rep manner p least most =>
      match test? flags p, manner with
      | some test, _ => [.several { manner, test, least, most, before := next, careful }]
      | none, .possessive => [.firm least most (steps flags careful p none)]
      | none, _ => [.loop (manner == .reluctant) careful least most (steps flags true p none)]
  | .group n p => .mark (2 * n - 2) :: steps flags careful p none ++ [.mark (2 * n - 1)]
  | .again n _ => [.again flags n]
  | .given n p .empty => [.given n (steps flags careful p next) []]
  | .given n p q => [.given n (steps flags careful p none) (steps flags careful q next)]
  | .look negated behind p =>
      [.look negated (if behind then p.width.least else 0) careful (steps flags careful p none)]
  | .once p => [.once (steps flags careful p none)]
  | .flagged changes p => steps (flags.setAll changes) careful p next

/-- The steps for the alternatives of a choice. -/
def alternatives (flags : Flags) (careful : Bool) (p : Pattern) : List (List Step) :=
  match p with
  | .alt p q => steps flags careful p none :: alternatives flags careful q
  | _ => []

end

/-! ### Patterns that are refused -/

/-- What repetitions of a manner are called in templates. -/
def Manner.operator : Manner → String
  | .greedy => "MAX_REPEAT"
  | .reluctant => "MIN_REPEAT"
  | .possessive => "POSSESSIVE_REPEAT"

/-- The first cause to refuse a pattern, from left to right. A template may not repeat anything. -/
def refusal? (template : Bool) : Pattern → Option Cause
  | .seq p q => refusal? template p <|> refusal? template q
  | .alt p q => refusal? template p <|> refusal? template q
  | .rep manner p _ _ =>
      if template then some (.templateRepeat manner.operator) else refusal? template p
  | .group _ p => refusal? template p
  | .given _ p q => refusal? template p <|> refusal? template q
  | .look _ behind p =>
      if behind && p.width.least != p.width.most then some .variableLookBehind
      else refusal? template p
  | .once p => refusal? template p
  | .flagged _ p => refusal? template p
  | _ => none

/-- The number of characters that is too far to look behind. -/
def behindLimit : Nat := 2147483648

/-- Does the pattern look too far behind? -/
def looksFar : Pattern → Bool
  | .seq p q => looksFar p || looksFar q
  | .alt p q => looksFar p || looksFar q
  | .rep _ p _ _ => looksFar p
  | .group _ p => looksFar p
  | .given _ p q => looksFar p || looksFar q
  | .look _ behind p => (behind && behindLimit ≤ p.width.least) || looksFar p
  | .once p => looksFar p
  | .flagged _ p => looksFar p
  | _ => false

/-- The steps for a whole pattern, if it is not refused. -/
def stepsOf (template : Bool) (flags : Flags) (p : Pattern) : Except Cause (List Step) :=
  match refusal? template p with
  | some cause => .error cause
  | none =>
      if looksFar p then .error (.breakdown .farLookBehind) else .ok (steps flags false p none)

end TaintFlow.Pattern
