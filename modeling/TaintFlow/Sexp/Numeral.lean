/-
Module: TaintFlow.Sexp.Numeral
Purpose: Which atoms are numbers. An atom is an integer if it is the numeral of one, otherwise a
  double-precision number if it is a decimal, an infinity or not-a-number, otherwise no number.
Main exports: Sexp.Numeral.real?, Sexp.ofAtom
-/
import TaintFlow.Sexp.Basic
import TaintFlow.Text.Numeral

namespace TaintFlow.Sexp

namespace Numeral

open Text.Numeral

/-- The exponent part of a decimal: nothing, or a mark, a sign and digits. -/
def exponent? : List Char → Option Int
  | [] => some 0
  | c :: rest =>
      if c = 'e' ∨ c = 'E' then
        let (negative, digits) := sign rest
        if digits.isEmpty || !digits.all Char.isDigit then none
        else some (if negative then -(value digits : Int) else value digits)
      else none

/-- A decimal without sign: digits, a point and digits, and an exponent; there is a digit before or
    after the point. -/
def decimal? (negative : Bool) (s : List Char) : Option Decimal.Binary64 :=
  let whole := s.takeWhile Char.isDigit
  let rest := s.dropWhile Char.isDigit
  let (part, rest) := match rest with
    | '.' :: rest => (rest.takeWhile Char.isDigit, rest.dropWhile Char.isDigit)
    | rest => ([], rest)
  if whole.isEmpty && part.isEmpty then none
  else (exponent? rest).map fun e =>
    Decimal.Binary64.ofDecimal negative (value (whole ++ part)) (e - part.length)

/-- The double-precision number that a plain numeral denotes. -/
def real? (s : List Char) : Option Decimal.Binary64 :=
  let (negative, body) := sign s
  let word := String.ofList (body.map Char.toLower)
  if word = "inf" ∨ word = "infinity" then some (.infinite negative)
  else if word = "nan" then some .nan
  else decimal? negative body

end Numeral

/-- The expression an atom stands for. -/
def ofAtom (atom : List Char) : Sexp :=
  let number := do
    let s ← Text.Numeral.plain? atom
    (Text.Numeral.integer? s).map Sexp.int <|> (Numeral.real? s).map Sexp.real
  number.getD (.symbol (String.ofList atom))

end TaintFlow.Sexp
