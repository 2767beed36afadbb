/-
Module: TaintFlow.Pattern.Basic
Purpose: Patterns for names. A pattern is a tree of characters, sets, positions, sequences, choices and
  repetitions; groups can be remembered, compared with and asked about. Flags tell how the characters
  and positions of a pattern are compared.
Main exports: Pattern, Pattern.Flags, Pattern.SetItem, Pattern.Anchor, Pattern.width
-/
import TaintFlow.Text.Case
import TaintFlow.Text.Lines
import TaintFlow.Text.Word

namespace TaintFlow

namespace Pattern

/-! ### Flags -/

/-- What can be changed about comparing. -/
inductive Flag where
  | anyCase
  | everyLine
  | anyLine
  | asciiOnly
deriving DecidableEq, Repr, Inhabited

/-- How a pattern is compared: whether upper and lower case count as the same, whether lines inside the
    text have a start and an end, whether the dot stands for a line feed too, and whether classes and
    case are those of ASCII. -/
structure Flags where
  anyCase : Bool := false
  everyLine : Bool := false
  anyLine : Bool := false
  asciiOnly : Bool := false
deriving DecidableEq, Repr, Inhabited

/-- Turn a flag on or off. -/
def Flags.set (flags : Flags) : Flag → Bool → Flags
  | .anyCase, b => { flags with anyCase := b }
  | .everyLine, b => { flags with everyLine := b }
  | .anyLine, b => { flags with anyLine := b }
  | .asciiOnly, b => { flags with asciiOnly := b }

/-- Turn flags on or off, one after another. -/
def Flags.setAll (flags : Flags) (changes : List (Flag × Bool)) : Flags :=
  changes.foldl (fun flags change => flags.set change.1 change.2) flags

/-! ### Characters -/

/-- Named classes of characters. -/
inductive CharClass where
  | word
  | digit
  | space
deriving DecidableEq, Repr, Inhabited

/-- Is the character in the class? -/
def CharClass.contains (flags : Flags) (kind : CharClass) (c : Char) : Bool :=
  (!flags.asciiOnly || c.toNat < 0x80) &&
    match kind with
    | .word => Text.isWordChar c
    | .digit => Text.isDecimalDigit c
    | .space => Text.isBlank c && !(flags.asciiOnly && 0x1c ≤ c.toNat && c.toNat ≤ 0x1f)

/-- A member of a character set: a code point, a range of them, or a named class or its complement. -/
inductive SetItem where
  | single (code : Nat)
  | range (low high : Nat)
  | named (negated : Bool) (kind : CharClass)
deriving DecidableEq, Repr, Inhabited

/-! ### Positions -/

/-- A position a pattern can ask for. -/
inductive Anchor where
  | textStart
  | textEnd
  | start
  | finish
  | wordEdge (negated : Bool)
deriving DecidableEq, Repr, Inhabited

/-- Is there a word character at an index? -/
def wordAt (flags : Flags) (text : Array Char) (i : Nat) : Bool :=
  match text[i]? with
  | some c => CharClass.word.contains flags c
  | none => false

/-- Is a position one that the anchor asks for? The finish may be followed by one last line feed. An
    empty text has no position at the edge of a word, and none away from one. -/
def Anchor.holds (flags : Flags) (text : Array Char) (i : Nat) : Anchor → Bool
  | .textStart => i == 0
  | .textEnd => i == text.size
  | .start => i == 0 || (flags.everyLine && text[i - 1]? == some '\n')
  | .finish =>
      i == text.size || (text[i]? == some '\n' && (flags.everyLine || i + 1 == text.size))
  | .wordEdge negated =>
      let before := 0 < i && wordAt flags text (i - 1)
      0 < text.size && (before != wordAt flags text i) != negated

/-- In which order a repetition is tried: as often as possible first, as rarely as possible first, or
    as often as possible without a second try. -/
inductive Manner where
  | greedy
  | reluctant
  | possessive
deriving DecidableEq, Repr, Inhabited

/-- Counts and lengths end below this number. -/
def countLimit : Nat := 4294967295

/-- The least and the greatest length of what a pattern matches. A greatest length at the limit stands for
    any length. -/
structure Width where
  least : Nat := 0
  most : Nat := 0
deriving DecidableEq, Repr, Inhabited

/-- Lengths cut off where they end. -/
def Width.within (least most : Nat) : Width :=
  { least := min least (countLimit - 1), most := min most countLimit }

/-- The width of a sequence. -/
def Width.add (v w : Width) : Width := within (v.least + w.least) (v.most + w.most)

/-- The width of a choice. -/
def Width.join (v w : Width) : Width := within (min v.least w.least) (max v.most w.most)

/-- The width of a repetition. -/
def Width.times (w : Width) (least : Nat) (most : Option Nat) : Width :=
  within (w.least * least) (w.most * most.getD countLimit)

end Pattern

/-- A pattern. -/
inductive Pattern where
  /-- Nothing. -/
  | empty
  /-- A choice without alternatives. -/
  | never
  /-- Any character, line feeds only if the flags say so. -/
  | any
  /-- One character, or any other. -/
  | char (negated : Bool) (code : Nat)
  /-- A character of a set, or any other. -/
  | oneOf (negated : Bool) (items : List Pattern.SetItem)
  /-- A position. -/
  | anchor (a : Pattern.Anchor)
  /-- One after the other. -/
  | seq (first second : Pattern)
  /-- A choice: the first alternative, or else one of the others. -/
  | alt (first others : Pattern)
  /-- The body at least so often and at most so often. -/
  | rep (manner : Pattern.Manner) (body : Pattern) (least : Nat) (most : Option Nat)
  /-- The body, remembered under a number. -/
  | group (number : Nat) (body : Pattern)
  /-- What is remembered under a number, once more. -/
  | again (number : Nat) (width : Pattern.Width)
  /-- One pattern if something is remembered under a number, the other if not. -/
  | given (number : Nat) (yes no : Pattern)
  /-- The body can follow here, or end here; or it cannot. Nothing is used up. -/
  | look (negated behind : Bool) (body : Pattern)
  /-- The body, without a second try. -/
  | once (body : Pattern)
  /-- The body, under other flags. -/
  | flagged (changes : List (Pattern.Flag × Bool)) (body : Pattern)
deriving Repr, Inhabited

namespace Pattern

/-- The pattern of a sequence. -/
def ofSequence : List Pattern → Pattern
  | [] => .empty
  | p :: ps => ps.foldl .seq p

/-- The pattern of a choice between sequences. -/
def ofChoice : List (List Pattern) → Pattern
  | [] => .never
  | ps :: rest => .alt (ofSequence ps) (ofChoice rest)

/-- The lengths of what a pattern can match. -/
def width : Pattern → Width
  | .empty => {}
  | .never => ⟨countLimit - 1, 0⟩
  | .any => ⟨1, 1⟩
  | .char _ _ => ⟨1, 1⟩
  | .oneOf _ _ => ⟨1, 1⟩
  | .anchor _ => {}
  | .seq p q => p.width.add q.width
  | .alt p q => p.width.join q.width
  | .rep _ p least most => p.width.times least most
  | .group _ p => p.width
  | .again _ w => w
  | .given _ p q => p.width.join q.width
  | .look _ _ _ => {}
  | .once p => p.width
  | .flagged _ p => p.width

end Pattern

end TaintFlow
