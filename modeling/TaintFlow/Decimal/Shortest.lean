/-
Module: TaintFlow.Decimal.Shortest
Purpose: The shortest decimal that reads back as a given double-precision number, and its text. A
  decimal reads back when it lies in the interval of reals that round to the number; of the decimals
  with the fewest digits the one nearest to the number is taken. The text is positional for exponents
  from -4 to 15 and scientific elsewhere.
Main exports: Decimal.Shortest.digits, Decimal.Binary64.text
-/
import TaintFlow.Decimal.Binary64

namespace TaintFlow.Decimal

namespace Shortest

/-- A positive number and the two ends of the interval that rounds to it, over one denominator. The
    ends belong to the interval exactly when `closed` holds. -/
structure Interval where
  low : Nat
  value : Nat
  high : Nat
  den : Nat
  closed : Bool

/-- The interval of `mantissa * 2 ^ exponent`, in quarters of the unit in the last place: the lower
    half-gap is narrower just above a power of two. -/
def interval (mantissa : Nat) (exponent : Int) : Interval :=
  let lower := if mantissa = Nat.pow 2 52 ∧ leastExponent < exponent then 1 else 2
  let up := Nat.pow 2 (exponent - 2).toNat
  { low := (4 * mantissa - lower) * up
    value := 4 * mantissa * up
    high := (4 * mantissa + 2) * up
    den := Nat.pow 2 (2 - exponent).toNat
    closed := mantissa % 2 = 0 }

/-- `c * 10 ^ scale` compared with `num / den`, as two naturals. -/
def onGrid (c num den : Nat) (scale : Int) : Nat × Nat :=
  (c * Nat.pow 10 scale.toNat * den, num * Nat.pow 10 (-scale).toNat)

/-- Does `c * 10 ^ scale` round to the number? -/
def Interval.contains (i : Interval) (c : Nat) (scale : Int) : Bool :=
  let (cl, low) := onGrid c i.low i.den scale
  let (ch, high) := onGrid c i.high i.den scale
  if i.closed then low ≤ cl && ch ≤ high else low < cl && ch < high

/-- The decimal exponent just above the number: `10 ^ (k - 1) ≤ value < 10 ^ k`. Every number exceeds
    `10 ^ -400`, so the shifted quotient is positive. -/
def Interval.magnitude (i : Interval) : Int :=
  ((Nat.toDigits 10 (i.value * Nat.pow 10 400 / i.den)).length : Int) - 400

/-- The number's neighbours on the grid of `n`-digit decimals, the nearer one that rounds to the
    number, if any does; of two at the same distance the even one. -/
def Interval.candidate? (i : Interval) (n : Nat) : Option (Nat × Int) :=
  let scale := i.magnitude - n
  let (unit, value) := onGrid 1 i.value i.den scale
  let below := value / unit
  let rest := 2 * (value % unit)
  let nearerBelow := rest < unit || (rest == unit && below % 2 == 0)
  let order := if nearerBelow then [below, below + 1] else [below + 1, below]
  (order.find? fun c => i.contains c scale).map fun c => (c, scale)

/-- Digits and scale of the shortest decimal; seventeen digits always suffice. -/
def digits (mantissa : Nat) (exponent : Int) : Nat × Int :=
  let i := interval mantissa exponent
  ((List.range 17).findSome? fun n => i.candidate? (n + 1)).getD (0, 0)

end Shortest

/-- Decimal digits without trailing zeros, and the power of ten of the first of them. -/
def scientific (digits : Nat) (scale : Int) : List Char × Int :=
  let all := Nat.toDigits 10 digits
  ((all.reverse.dropWhile (· = '0')).reverse, scale + all.length - 1)

/-- Positional text: the digits with a point after the one of weight one, filled up with zeros. -/
def positional (digits : List Char) (power : Int) : List Char :=
  if power < 0 then
    '0' :: '.' :: List.replicate (-power - 1).toNat '0' ++ digits
  else
    let whole := digits.take (power.toNat + 1)
    let part := digits.drop (power.toNat + 1)
    whole ++ List.replicate (power.toNat + 1 - whole.length) '0' ++
      '.' :: (if part.isEmpty then ['0'] else part)

/-- Scientific text: one digit, the others after a point, and a signed exponent of at least two
    digits. -/
def exponential (digits : List Char) (power : Int) : List Char :=
  let exponent := Nat.toDigits 10 power.natAbs
  digits.take 1 ++ (if digits.length ≤ 1 then [] else '.' :: digits.drop 1) ++
    ['e', if power < 0 then '-' else '+'] ++ List.replicate (2 - exponent.length) '0' ++ exponent

/-- The text of a number: the shortest decimal that reads back as it. -/
def Binary64.text : Binary64 → String
  | .nan => "nan"
  | .infinite negative => if negative then "-inf" else "inf"
  | .finite negative mantissa exponent =>
      let body :=
        if mantissa = 0 then ['0', '.', '0']
        else
          let (digits, scale) := Shortest.digits mantissa exponent
          let (ds, power) := scientific digits scale
          if -4 ≤ power ∧ power < 16 then positional ds power else exponential ds power
      String.ofList (if negative then '-' :: body else body)

end TaintFlow.Decimal
