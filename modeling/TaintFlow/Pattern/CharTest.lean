/-
Module: TaintFlow.Pattern.CharTest
Purpose: Tests of single characters. Where case does not count, a character is compared by its lower-case
  form, and only if the characters to compare it with have forms in another case.
Main exports: Pattern.CharTest, Pattern.CharTest.fits, Pattern.CharTest.ofChar, Pattern.CharTest.ofSet
-/
import TaintFlow.Pattern.Basic

namespace TaintFlow.Pattern

/-! ### Case -/

/-- The lower-case form of a code point. -/
def lowerCase (flags : Flags) (n : Nat) : Nat :=
  if flags.asciiOnly && 0x80 ≤ n then n else Text.toLowerCase n

/-- The code points that a code point counts as when case does not count. -/
def variants (flags : Flags) (n : Nat) : List Nat :=
  if !flags.asciiOnly then Text.caseVariants n
  else if 0x80 ≤ n then [n]
  else (Text.caseVariants n).filter (· < 0x80)

/-- Does some code point of an inclusive range have a form in the other case? -/
def hasCased (flags : Flags) (low high : Nat) : Bool :=
  if flags.asciiOnly then (low ≤ 0x5a && 0x41 ≤ high) || (low ≤ 0x7a && 0x61 ≤ high)
  else Text.hasCased low high

/-- Has the item a member with a form in the other case? All beyond the basic plane count as such. -/
def SetItem.isCased (flags : Flags) : SetItem → Bool
  | .single code => 0xffff < code || hasCased flags code code
  | .range low high => 0xffff < high || hasCased flags low high
  | .named _ _ => false

/-- Is the character among those of the item? -/
def SetItem.contains (flags : Flags) (c : Char) : SetItem → Bool
  | .single code => c.toNat == code
  | .range low high => low ≤ c.toNat && c.toNat ≤ high
  | .named negated kind => kind.contains flags c != negated

/-- Is the character among those of the item when case does not count? Beyond the basic plane, a single
    member is compared with the lower-case form of the character only, and a range with that form and
    its upper-case form. -/
def SetItem.containsAnyCase (flags : Flags) (c : Char) : SetItem → Bool
  | .single code =>
      if 0xffff < code then lowerCase flags c.toNat == code
      else (variants flags c.toNat).contains code
  | .range low high =>
      let within (n : Nat) : Bool := low ≤ n && n ≤ high
      let lower := lowerCase flags c.toNat
      (variants flags c.toNat).any (fun n => within n && n ≤ 0xffff) ||
        (0xffff < high && (within lower || within (Text.toUpperCase lower)))
  | .named negated kind => kind.contains flags c != negated

/-! ### Tests -/

/-- A test of one character. -/
inductive CharTest where
  /-- Any character, or any but a line feed. -/
  | any (anyLine : Bool)
  /-- One character, or any other. -/
  | char (negated : Bool) (code : Nat)
  /-- A character of a set, or any other. -/
  | set (negated : Bool) (flags : Flags) (items : List SetItem)
  /-- A letter in either case, or any other character. -/
  | letter (negated : Bool) (flags : Flags) (code : Nat)
  /-- A character of a set in either case, or any other. -/
  | letterSet (negated : Bool) (flags : Flags) (items : List SetItem)
deriving DecidableEq, Repr, Inhabited

namespace CharTest

/-- Does a character pass the test? -/
def fits (test : CharTest) (c : Char) : Bool :=
  match test with
  | .any anyLine => anyLine || c != '\n'
  | .char negated code => (c.toNat == code) != negated
  | .set negated flags items => items.any (SetItem.contains flags c) != negated
  | .letter negated flags code => (lowerCase flags c.toNat == lowerCase flags code) != negated
  | .letterSet negated flags items => items.any (SetItem.containsAnyCase flags c) != negated

/-- The test for one character, or for any other. A letter with several lower-case forms is a set. -/
def ofChar (flags : Flags) (negated : Bool) (code : Nat) : CharTest :=
  if !flags.anyCase || !hasCased flags code code then .char negated code
  else if !flags.asciiOnly && 1 < (Text.sameLetter (lowerCase flags code)).length then
    .letterSet negated flags [.single code]
  else .letter negated flags code

/-- The test for a character of a set, or for any other. -/
def ofSet (flags : Flags) (negated : Bool) (items : List SetItem) : CharTest :=
  if flags.anyCase && items.any (SetItem.isCased flags) then .letterSet negated flags items
  else .set negated flags items

/-- The character that passes, if it is a single one in one case. -/
def only? : CharTest → Option Nat
  | .char false code => some code
  | _ => none

/-- Is the test made before an alternative that begins with it is tried at all? -/
def isAhead : CharTest → Bool
  | .char negated _ => !negated
  | .set _ _ _ => true
  | _ => false

/-- Does the test move the search along while characters are counted with it? -/
def drifts : CharTest → Bool
  | .letterSet _ _ _ => true
  | _ => false

/-- Does the character at an index pass? -/
def fitsAt (text : Array Char) (i : Nat) (test : CharTest) : Bool :=
  if h : i < text.size then test.fits text[i] else false

/-- The index after the characters from an index on that pass, up to a number of them. -/
def passOver (text : Array Char) (i : Nat) (test : CharTest) : Nat → Nat
  | 0 => i
  | most + 1 => if test.fitsAt text i then test.passOver text (i + 1) most else i

end CharTest

end TaintFlow.Pattern
