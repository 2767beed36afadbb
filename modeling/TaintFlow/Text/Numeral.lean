/-
Module: TaintFlow.Text.Numeral
Purpose: Decimal numerals. Blanks around a numeral do not count, an underscore may stand between two
  digits, and the decimal digits of all scripts are the same. An integer is a sign and at most 4300 digits.
Main exports: Text.Numeral.plain?, Text.Numeral.integer?
-/
import TaintFlow.Text.Lines
import TaintFlow.Text.Word

namespace TaintFlow.Text.Numeral

/-- Blanks that may surround a numeral: all but the four information separators. -/
def isMargin (c : Char) : Bool :=
  isBlank c && !(28 ≤ c.toNat && c.toNat ≤ 31)

/-- The ASCII digit for a decimal digit; other characters stay. -/
def plainDigit (c : Char) : Char :=
  if c.toNat < 0x80 then c
  else match digitValue? c with
    | some n => Char.ofNat ('0'.toNat + n)
    | none => c

/-- Remove the underscores that stand between two digits; `none` if one stands elsewhere. `prior` is
    the character before the rest. -/
def joinDigits (prior : Char) : List Char → Option (List Char)
  | [] => some []
  | '_' :: c :: rest =>
      if prior.isDigit && c.isDigit then (joinDigits c rest).map (c :: ·) else none
  | c :: rest => if c = '_' then none else (joinDigits c rest).map (c :: ·)

/-- A numeral in ASCII digits, without the blanks around it and its underscores; `none` if an underscore
    does not stand between digits. -/
def plain? (s : List Char) : Option (List Char) :=
  joinDigits ' ' ((trimBy isMargin s).map plainDigit)

/-- Split off a sign; `true` is minus. -/
def sign : List Char → Bool × List Char
  | '-' :: rest => (true, rest)
  | '+' :: rest => (false, rest)
  | rest => (false, rest)

/-- The value of a run of decimal digits. -/
def value (digits : List Char) : Nat :=
  digits.foldl (fun n c => 10 * n + (c.toNat - '0'.toNat)) 0

/-- The longest integer numeral, in digits. -/
def digitLimit : Nat := 4300

/-- The integer that a plain numeral denotes. -/
def integer? (s : List Char) : Option Int :=
  let (negative, digits) := sign s
  if digits.isEmpty || !digits.all Char.isDigit || digitLimit < digits.length then none
  else some (if negative then -(value digits : Int) else value digits)

end TaintFlow.Text.Numeral
