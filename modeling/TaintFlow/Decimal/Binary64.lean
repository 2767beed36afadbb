/-
Module: TaintFlow.Decimal.Binary64
Purpose: Double-precision numbers as exact values. A finite number is a mantissa times a power of two;
  a ratio of naturals is rounded to the nearest of them, a tie going to the even mantissa. All
  arithmetic is on `Nat`, so no law has to be assumed of machine floats.
Main exports: Decimal.Binary64, Decimal.roundDiv, Decimal.Binary64.ofRatio, Decimal.Binary64.ofDecimal
-/

namespace TaintFlow.Decimal

/-- A double-precision number. The mantissa of a finite one is below `2 ^ 53`, and it is at least
    `2 ^ 52` unless the exponent is the least one, so each number has one representation. -/
inductive Binary64 where
  | nan
  | infinite (negative : Bool)
  | finite (negative : Bool) (mantissa : Nat) (exponent : Int)
deriving DecidableEq, Repr, Inhabited

/-- The exponent of the smallest numbers. -/
def leastExponent : Int := -1074

/-- The exponent of the largest numbers. -/
def greatestExponent : Int := 971

/-- A quotient rounded to the nearest natural; a tie goes to the even one. -/
def roundDiv (num den : Nat) : Nat :=
  let q := num / den
  let r := num % den
  if 2 * r < den then q
  else if den < 2 * r then q + 1
  else if q % 2 = 0 then q
  else q + 1

/-- `num / den` in units of `2 ^ e`, as a fraction of naturals. -/
def inUnits (num den : Nat) (e : Int) : Nat × Nat :=
  if 0 ≤ e then (num, den * Nat.pow 2 e.toNat) else (num * Nat.pow 2 (-e).toNat, den)

namespace Binary64

/-- Zero with a sign. -/
def zero (negative : Bool) : Binary64 := .finite negative 0 leastExponent

/-- The number nearest to `num / den`, or an infinity when that lies beyond the largest number. -/
def ofRatio (negative : Bool) (num den : Nat) : Binary64 :=
  if num = 0 then zero negative
  else
    -- The guess makes the quotient lie between `2 ^ 52` and `2 ^ 54`.
    let guess : Int := (Nat.log2 num : Int) - (Nat.log2 den : Int) - 53
    let (n, d) := inUnits num den guess
    let exponent := max leastExponent (if Nat.pow 2 53 ≤ n / d then guess + 1 else guess)
    let (n, d) := inUnits num den exponent
    let mantissa := roundDiv n d
    let (mantissa, exponent) :=
      if mantissa = Nat.pow 2 53 then (Nat.pow 2 52, exponent + 1) else (mantissa, exponent)
    if greatestExponent < exponent then .infinite negative
    else .finite negative mantissa exponent

/-- The number nearest to `digits * 10 ^ scale`. Scales far outside the range of the numbers are
    settled before any power is computed. -/
def ofDecimal (negative : Bool) (digits : Nat) (scale : Int) : Binary64 :=
  let magnitude : Int := (Nat.toDigits 10 digits).length + scale
  if digits = 0 ∨ magnitude < -330 then zero negative
  else if 310 < magnitude then .infinite negative
  else if 0 ≤ scale then ofRatio negative (digits * Nat.pow 10 scale.toNat) 1
  else ofRatio negative digits (Nat.pow 10 (-scale).toNat)

end Binary64

end TaintFlow.Decimal
