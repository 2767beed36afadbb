/-
Module: TaintFlow.Pattern.Group
Purpose: Groups of a pattern while they are read. A group holds alternatives, each a sequence of items.
  A group that only groups is no item of its own: what it holds becomes part of the sequence around it.
  What all alternatives begin with is matched before the choice, and a choice between single characters
  is a set.
Main exports: Pattern.Item, Pattern.Group, Pattern.Group.contents
-/
import TaintFlow.Pattern.Fault
import TaintFlow.Pattern.Basic

namespace TaintFlow.Pattern

/-- Something read inside a group: one pattern, or what a group holds that only groups. -/
inductive Item where
  | unit (p : Pattern)
  | block (ps : List Pattern)
deriving Repr, Inhabited

/-- The patterns of an item. -/
def Item.patterns : Item → List Pattern
  | .unit p => [p]
  | .block ps => ps

/-- The patterns of some items, given last first. -/
def sequenceOf (items : List Item) : List Pattern := items.reverse.flatMap Item.patterns

/-- What a group is for. -/
inductive GroupKind where
  | plain
  | remembered (number : Nat)
  | flagged (changes : List (Flag × Bool))
  | look (negated behind : Bool)
  | once
  | given (number : Nat)
deriving DecidableEq, Repr, Inhabited

/-- A group being read: the position of its parenthesis, what it is for, whether blanks and comments
    are passed over, the alternatives already complete, last first, and the items of the current one,
    last first. -/
structure Group where
  opened : Nat := 0
  kind : GroupKind := .plain
  spaced : Bool := false
  alternatives : List (List Pattern) := []
  items : List Item := []
deriving Repr, Inhabited

/-! ### Choices -/

/-- Are two patterns the same and simple enough to stand before a choice? -/
def sameUnit : Pattern → Pattern → Bool
  | .any, .any => true
  | .char m a, .char n b => m == n && a == b
  | .oneOf m xs, .oneOf n ys => m == n && xs == ys
  | .anchor a, .anchor b => a == b
  | .again m _, .again n _ => m == n
  | _, _ => false

/-- What the first alternative and all others begin with, and what is left of them. -/
def factor : List Pattern → List (List Pattern) → List Pattern × List (List Pattern)
  | [], others => ([], [] :: others)
  | p :: ps, others =>
      if others.all fun o => o.head?.any (sameUnit p) then
        let (common, rests) := factor ps (others.map (List.drop 1))
        (p :: common, rests)
      else ([], (p :: ps) :: others)

/-- The members of a set that an alternative stands for, if it is one character. -/
def membersOf? : List Pattern → Option (List SetItem)
  | [.char false code] => some [.single code]
  | [.oneOf false items] => some items
  | _ => none

/-- The pattern of a choice. -/
def choiceOf (alternatives : List (List Pattern)) : Pattern :=
  match alternatives.mapM membersOf? with
  | some members => .oneOf false members.flatten.eraseDups
  | none => ofChoice alternatives

/-- The sequence that a choice between alternatives amounts to. -/
def choose : List (List Pattern) → List Pattern
  | [] => []
  | [ps] => ps
  | first :: others =>
      let (common, rests) := factor first others
      common ++ [choiceOf rests]

/-! ### Groups -/

namespace Group

/-- Add an item to the current alternative. -/
def add (g : Group) (item : Item) : Group := { g with items := item :: g.items }

/-- Close the current alternative. -/
def nextAlternative (g : Group) : Group :=
  { g with alternatives := sequenceOf g.items :: g.alternatives, items := [] }

/-- The alternatives of a complete group. -/
def allAlternatives (g : Group) : List (List Pattern) := g.nextAlternative.alternatives.reverse

/-- What a complete group holds. -/
def contents (g : Group) : List Pattern := choose g.allAlternatives

/-- The pattern of what a complete group holds. -/
def body (g : Group) : Pattern := ofSequence g.contents

/-- The item that a complete group is. -/
def item (g : Group) : Item :=
  match g.kind with
  | .plain => .block g.contents
  | .remembered n => .unit (.group n g.body)
  | .flagged changes => .unit (.flagged changes g.body)
  | .look negated behind => .unit (.look negated behind g.body)
  | .once => .unit (.once g.body)
  | .given n =>
      match g.allAlternatives with
      | yes :: no :: _ => .unit (.given n (ofSequence yes) (ofSequence no))
      | alternatives => .unit (.given n (ofSequence alternatives.flatten) .empty)

/-- Repeat the last item of the current alternative; `position` is where the repetition starts. -/
def repeatLast (g : Group) (position : Nat) (manner : Manner) (least : Nat) (most : Option Nat) :
    Except Fault Group :=
  match g.items with
  | [] => faultAt position .nothingToRepeat
  | .unit (.anchor _) :: _ => faultAt position .nothingToRepeat
  | .unit (.rep _ _ _ _) :: _ => faultAt position .repeatedTwice
  | item :: items =>
      .ok { g with items := .unit (.rep manner (ofSequence item.patterns) least most) :: items }

end Group

end TaintFlow.Pattern
