/-
Module: TaintFlow.Pattern.Escape
Purpose: What a backslash and a character stand for: a character, by a letter or by its number, a class,
  a position or a group remembered before. In a set there are no positions and no groups, and a number
  always is that of a character.
Main exports: Pattern.Escape, Pattern.escape, Pattern.setEscape
-/
import TaintFlow.Pattern.Basic
import TaintFlow.Pattern.Token
import TaintFlow.Text.CharName

namespace TaintFlow.Pattern

/-- Characters that a backslash and a letter stand for, in sets and outside. -/
def controlEscape? : Char → Option Nat
  | 'a' => some 0x07
  | 'f' => some 0x0c
  | 'n' => some 0x0a
  | 'r' => some 0x0d
  | 't' => some 0x09
  | 'v' => some 0x0b
  | _ => none

/-- Classes that a backslash and a letter stand for. -/
def classEscape? : Char → Option SetItem
  | 'w' => some (.named false .word)
  | 'W' => some (.named true .word)
  | 'd' => some (.named false .digit)
  | 'D' => some (.named true .digit)
  | 's' => some (.named false .space)
  | 'S' => some (.named true .space)
  | _ => none

/-- Positions that a backslash and a letter stand for. -/
def anchorEscape? : Char → Option Anchor
  | 'A' => some .textStart
  | 'Z' => some .textEnd
  | 'b' => some (.wordEdge false)
  | 'B' => some (.wordEdge true)
  | _ => none

/-- The value of a digit, letters counting from ten on. -/
def digitValue (c : Char) : Nat :=
  if c.isDigit then c.toNat - '0'.toNat else c.toLower.toNat - 'a'.toNat + 10

/-- The number that digits denote in a base. -/
def numberIn (base : Nat) (digits : List Char) : Nat :=
  digits.foldl (fun n c => base * n + digitValue c) 0

/-- Is the character a hexadecimal digit? -/
def isHexDigit (c : Char) : Bool :=
  c.isDigit || ('a' ≤ c && c ≤ 'f') || ('A' ≤ c && c ≤ 'F')

/-- Is the character an octal digit? -/
def isOctalDigit (c : Char) : Bool := '0' ≤ c && c ≤ '7'

/-- The text of an escape with some digits. -/
def escapeText (c : Char) (digits : List Char) : String := String.ofList ('\\' :: c :: digits)

/-- A character by so many hexadecimal digits; the escape starts at `position`. -/
def hexEscape (position : Nat) (c : Char) (count : Nat) (source : Source) :
    Except Fault (Nat × Source) := do
  let (digits, source) ← source.takeUpTo isHexDigit count
  let text := escapeText c digits
  if digits.length < count then faultAt position (.incompleteEscape text)
  else if 0x10ffff < numberIn 16 digits then faultAt position (.badEscape text)
  else .ok (numberIn 16 digits, source)

/-- A character by its name. -/
def namedEscape (position : Nat) (source : Source) : Except Fault (Nat × Source) := do
  let (opened, after) ← source.skip '\x7b'
  if opened then
    let (name, after) ← after.takeName '\x7d' "character name"
    match Text.charNamed? name with
    | some code => .ok (code, after)
    | none => faultAt position (.unknownCharacter name)
  else faultAt source.position .unnamedCharacter

/-- A character by an octal number, given its first digits. -/
def octalValue (position : Nat) (c : Char) (digits : List Char) (source : Source) :
    Except Fault (Nat × Source) :=
  let n := numberIn 8 (c :: digits)
  if 0o377 < n then faultAt position (.octalEscape (escapeText c digits)) else .ok (n, source)

/-- A character that has no other meaning behind a backslash stands for itself, unless it is a letter or
    a digit. -/
def plainEscape (position : Nat) (c : Char) (source : Source) : Except Fault (Nat × Source) :=
  match c with
  | 'x' => hexEscape position c 2 source
  | 'u' => hexEscape position c 4 source
  | 'U' => hexEscape position c 8 source
  | 'N' => namedEscape position source
  | c =>
      match controlEscape? c with
      | some n => .ok (n, source)
      | none =>
          if c.isAlphanum then faultAt position (.badEscape (escapeText c []))
          else .ok (c.toNat, source)

/-- The member of a set that an escape stands for. -/
def setEscape (position : Nat) (c : Char) (source : Source) : Except Fault (SetItem × Source) :=
  match c, classEscape? c with
  | 'b', _ => .ok (.single 0x08, source)
  | _, some item => .ok (item, source)
  | c, none => do
      let (n, source) ← if isOctalDigit c then do
          let (digits, source) ← source.takeUpTo isOctalDigit 2
          octalValue position c digits source
        else plainEscape position c source
      .ok (.single n, source)

/-- What an escape outside of sets stands for. -/
inductive Escape where
  | code (n : Nat)
  | item (i : SetItem)
  | anchor (a : Anchor)
  | reference (number : Nat)
deriving DecidableEq, Repr, Inhabited

/-- A group by its number, or a character by three octal digits. -/
def numberEscape (position : Nat) (c : Char) (source : Source) : Except Fault (Escape × Source) := do
  let (second, source) ← source.takeUpTo Char.isDigit 1
  let (third, after) ← if isOctalDigit c && second.any isOctalDigit then
      source.takeUpTo isOctalDigit 1
    else .ok ([], source)
  if third.isEmpty then
    .ok (.reference (numberIn 10 (c :: second)), source)
  else do
    let (n, after) ← octalValue position c (second ++ third) after
    .ok (.code n, after)

/-- What an escape outside of sets stands for. -/
def escape (position : Nat) (c : Char) (source : Source) : Except Fault (Escape × Source) :=
  match anchorEscape? c, classEscape? c with
  | some a, _ => .ok (.anchor a, source)
  | none, some item => .ok (.item item, source)
  | none, none =>
      if c = '0' then do
        let (digits, source) ← source.takeUpTo isOctalDigit 2
        .ok (.code (numberIn 8 digits), source)
      else if c.isDigit then numberEscape position c source
      else do
        let (n, source) ← plainEscape position c source
        .ok (.code n, source)

end TaintFlow.Pattern
