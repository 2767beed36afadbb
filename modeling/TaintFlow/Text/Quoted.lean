/-
Module: TaintFlow.Text.Quoted
Purpose: Text between quotation marks, as diagnostics show it. Single marks are used unless the text
  holds a single mark and no double one. The mark in use, the backslash, line breaks and tabs are
  escaped by a backslash; every other unprintable character is written by its code point.
Main exports: Text.quote, Text.quoteChar, Text.padLeft, Text.padRight
-/
import TaintFlow.Text.Printable

namespace TaintFlow.Text

/-- Fill `s` with `fill` on the left up to `width` characters. -/
def padLeft (fill : Char) (width : Nat) (s : List Char) : List Char :=
  List.replicate (width - s.length) fill ++ s

/-- Fill `s` with `fill` on the right up to `width` characters. -/
def padRight (fill : Char) (width : Nat) (s : List Char) : List Char :=
  s ++ List.replicate (width - s.length) fill

/-- Lower-case hexadecimal digits of `n`, at least `width` of them. -/
def hexDigits (width n : Nat) : List Char :=
  padLeft '0' width (Nat.toDigits 16 n)

/-- The code point of an unprintable character, in the shortest of the three escape widths. -/
def escapeCodePoint (n : Nat) : List Char :=
  if n ≤ 0xff then '\\' :: 'x' :: hexDigits 2 n
  else if n ≤ 0xffff then '\\' :: 'u' :: hexDigits 4 n
  else '\\' :: 'U' :: hexDigits 8 n

/-- How one character is written between two `mark`s. -/
def escapeChar (mark c : Char) : List Char :=
  if c = mark ∨ c = '\\' then ['\\', c]
  else if c = '\n' then ['\\', 'n']
  else if c = '\r' then ['\\', 'r']
  else if c = '\t' then ['\\', 't']
  else if isPrintable c then [c]
  else escapeCodePoint c.toNat

/-- The quotation mark that needs the fewest escapes, single by preference. -/
def preferredMark (s : List Char) : Char :=
  if '\'' ∈ s ∧ '"' ∉ s then '"' else '\''

/-- Text between quotation marks. -/
def quote (s : String) : String :=
  let mark := preferredMark s.toList
  String.ofList (mark :: s.toList.flatMap (escapeChar mark) ++ [mark])

/-- One character between quotation marks. -/
def quoteChar (c : Char) : String := quote (String.singleton c)

/-- A bracketed list of already rendered items. -/
def bracketed (items : List String) : String :=
  "[" ++ String.intercalate ", " items ++ "]"

end TaintFlow.Text
