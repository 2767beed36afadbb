/-
Module: TaintFlow.Sexp.Reader
Purpose: From tokens to expressions. Open brackets are kept on a stack of levels; an apostrophe waits
  on its level for the next expression and quotes it.
Main exports: Sexp.readAll, Sexp.read
-/
import TaintFlow.Sexp.Token

namespace TaintFlow.Sexp

/-- The expressions read so far inside one bracket, last first, and the positions of the apostrophes
    that wait for the next one, last first. -/
structure Level where
  items : List Sexp := []
  waiting : List Nat := []
deriving Repr, Inhabited

/-- Add an expression, quoted once for each apostrophe that waits. -/
def Level.push (level : Level) (item : Sexp) : Level :=
  { items := level.waiting.foldl (fun quotedItem _ => .quoted quotedItem) item :: level.items
    waiting := [] }

/-- The expression that a bracket around some expressions makes. -/
def Bracket.enclose : Bracket → List Sexp → Sexp
  | .round, items => .list items
  | .square, items => .brackets items

/-- Assemble tokens; `outer` holds the brackets that are open and the levels around them, innermost
    first. -/
def assemble (level : Level) (outer : List (Bracket × Level)) : List Token → Except Fault (List Sexp)
  | [] =>
      match level.waiting, outer with
      | position :: _, _ => .error (.bareApostrophe position)
      | [], (bracket, _) :: _ => .error (.unclosed bracket none)
      | [], [] => .ok level.items.reverse
  | .opening bracket :: tokens => assemble {} ((bracket, level) :: outer) tokens
  | .closing bracket rest :: tokens =>
      match level.waiting, outer with
      | position :: _, _ => .error (.bareApostrophe position)
      | [], [] => .error (.unopened rest)
      | [], (opened, around) :: outer =>
          if opened = bracket then
            assemble (around.push (bracket.enclose level.items.reverse)) outer tokens
          else .error (.unclosed opened (some bracket))
  | .apostrophe position :: tokens =>
      assemble { level with waiting := position :: level.waiting } outer tokens
  | .value expression :: tokens => assemble (level.push expression) outer tokens
  | .broken fault :: _ => .error fault

/-- All expressions of a text. -/
def readAll (text : String) : Except Fault (List Sexp) :=
  assemble {} [] (scan 0 .between text.toList)

/-- The expression of a text that holds exactly one. -/
def read (text : String) : Except Fault Sexp :=
  match readAll text with
  | .ok [expression] => .ok expression
  | .ok _ => .error .notSingle
  | .error fault => .error fault

end TaintFlow.Sexp
