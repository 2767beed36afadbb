/-
Module: TaintFlow.Pattern.CharSet
Purpose: Reading character sets. A set lists characters, ranges and classes between brackets. A closing
  bracket that comes first is a member, and so is a dash before the closing bracket. A set of one
  character is that character.
Main exports: Pattern.readSet
-/
import TaintFlow.Pattern.Escape

namespace TaintFlow.Pattern

/-- The member of a set that a token stands for, and what follows; `after` follows the token. -/
def setMember (t : Placed) (after : Source) : Except Fault (SetItem × Source) :=
  match t.token with
  | .char c => .ok (.single c.toNat, after)
  | .escape c => setEscape t.position c after
  | .cut => faultAt t.position .cutEscape

/-- The range between two members of a set, if both are single characters in order. -/
def rangeBetween (low high : Placed) (first last : SetItem) (after : Source) :
    Except Fault SetItem :=
  let bad : Except Fault SetItem :=
    let (l, h) := (low.token.text, high.token.text)
    faultAt (after.position - (l.length + 1 + h.length)) (.badRange l h)
  match first, last with
  | .single l, .single h => if l ≤ h then .ok (.range l h) else bad
  | _, _ => bad

/-- What one token of a set, with the tokens that belong to it, adds: the members read so far, last
    first, what follows, and whether the set is complete. -/
structure SetStep where
  items : List SetItem
  after : Source
  closed : Bool := false
deriving Repr, Inhabited

/-- Read one member, one range or the end of a set that was opened at `opened`. -/
def setStep (opened : Nat) (items : List SetItem) (t : Placed) (after : Source) :
    Except Fault SetStep := do
  if t.token = .char ']' ∧ items ≠ [] then .ok { items, after, closed := true }
  else
    let (item, after) ← setMember t after
    let (dashed, after) ← after.skip '-'
    if !dashed then .ok { items := item :: items, after }
    else match after.tokens with
      | [] => faultAt opened .openSet
      | high :: _ => do
          let behind ← after.advance
          if high.token = .char ']' then
            .ok { items := .single '-'.toNat :: item :: items, after := behind, closed := true }
          else
            let (last, behind) ← setMember high behind
            let range ← rangeBetween t high item last behind
            .ok { items := range :: items, after := behind }

/-- Read the members of a set up to its end; `items` are those read before, last first. -/
def setItems (opened : Nat) (items : List SetItem) (source : Source) :
    Except Fault (List SetItem × Source) :=
  match source.tokens with
  | [] => faultAt opened .openSet
  | t :: _ => do
      let step ← setStep opened items t (← source.advance)
      if step.closed then .ok (step.items.reverse, step.after)
      else if _h : step.after.tokens.length < source.tokens.length then
        setItems opened step.items step.after
      else .ok (step.items.reverse, step.after)
termination_by source.tokens.length

/-- The pattern of a set. -/
def setPattern (negated : Bool) (items : List SetItem) : Pattern :=
  match items.eraseDups with
  | [.single code] => .char negated code
  | items => .oneOf negated items

/-- Read a set that was opened at `opened`. -/
def readSet (opened : Nat) (source : Source) : Except Fault (Pattern × Source) := do
  let (negated, source) ← source.skip '^'
  let (items, source) ← setItems opened [] source
  .ok (setPattern negated items, source)

end TaintFlow.Pattern
