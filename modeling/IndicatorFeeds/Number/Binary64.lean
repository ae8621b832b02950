/-!
Finite double-precision numbers as sign, mantissa and exponent, with exact arithmetic on the
integers behind them. Every operation rounds its exact result to the nearest number that has
53 bits of mantissa, a tie to the even mantissa.
-/

namespace IndicatorFeeds

/-- The number `± mantissa · 2 ^ exponent`. The mantissa has 53 bits, fewer only at the least
exponent, `-1074`. -/
structure Binary64 where
  negative : Bool
  mantissa : Nat
  exponent : Int
deriving Repr, DecidableEq, Inhabited

namespace Binary64

def zero (negative : Bool) : Binary64 := ⟨negative, 0, -1074⟩

def isZero (x : Binary64) : Bool := x.mantissa == 0

/-- `num / den` to the nearest integer, a tie to the even one. -/
def divNearest (num den : Nat) : Nat :=
  let q := num / den
  let twice := 2 * (num % den)
  if twice < den then q
  else if den < twice then q + 1
  else if q % 2 == 0 then q else q + 1

/-- `num / (den · 2 ^ exponent)` as a fraction of natural numbers. -/
private def shifted (num den : Nat) (exponent : Int) : Nat × Nat :=
  if exponent ≥ 0 then (num, den * Nat.pow 2 exponent.toNat)
  else (num * Nat.pow 2 (-exponent).toNat, den)

/-- The double nearest to the positive fraction `num / den`, `none` if it is out of range. -/
def ofRatio (negative : Bool) (num den : Nat) : Option Binary64 :=
  if num == 0 then some (zero negative) else
  let estimate : Int := max ((num.log2 : Int) - (den.log2 : Int) - 53) (-1074)
  let (n, d) := shifted num den estimate
  let exponent := if n / d < 0x20000000000000 then estimate else estimate + 1
  let (n, d) := shifted num den exponent
  let m := divNearest n d
  let (m, exponent) := if m == 0x20000000000000 then (0x10000000000000, exponent + 1) else (m, exponent)
  if exponent > 971 then none else some ⟨negative, m, exponent⟩

/-- The value as a fraction, without its sign. -/
def ratio (x : Binary64) : Nat × Nat :=
  if x.exponent ≥ 0 then (x.mantissa * Nat.pow 2 x.exponent.toNat, 1)
  else (x.mantissa, Nat.pow 2 (-x.exponent).toNat)

def mul (x y : Binary64) : Option Binary64 :=
  ofRatio (x.negative != y.negative) (x.ratio.1 * y.ratio.1) (x.ratio.2 * y.ratio.2)

/-- The quotient by a number other than zero, `none` if it is out of range. -/
def div (x y : Binary64) : Option Binary64 :=
  ofRatio (x.negative != y.negative) (x.ratio.1 * y.ratio.2) (x.ratio.2 * y.ratio.1)

/-- The double nearest to `10 ^ k`. -/
def powerOfTen (k : Nat) : Option Binary64 := ofRatio false (Nat.pow 10 k) 1

private def scaleDown (x : Binary64) (k : Nat) : Option Binary64 :=
  if k ≤ 308 then do x.div (← powerOfTen k)
  else if x.isZero then some x
  else do
    let y ← x.div (← powerOfTen 308)
    scaleDown y (k - 308)
termination_by k

/-- `± significand · 10 ^ exponent`, computed as the significand rounded to a double and then
scaled by one power of ten (several, if it is below `10 ^ -308`), each step rounded. This is
within one unit in the last place of the exact value, not always the nearest double. -/
def ofDecimal (negative : Bool) (significand : Nat) (exponent : Int) : Option Binary64 := do
  let x ← ofRatio negative significand 1
  if exponent < 0 then scaleDown x (-exponent).toNat
  else if exponent ≤ 308 then x.mul (← powerOfTen exponent.toNat)
  else if x.isZero then some x
  else none

/-- The double nearest to `± significand · 10 ^ exponent`, `none` if it is out of range. Where the
exponent alone decides, the power is not computed. -/
def nearestDecimal (negative : Bool) (significand : Nat) (exponent : Int) : Option Binary64 :=
  if significand == 0 || exponent < -(significand.log2 : Int) - 400 then some (zero negative)
  else if 400 < exponent then none
  else if 0 ≤ exponent then ofRatio negative (significand * Nat.pow 10 exponent.toNat) 1
  else ofRatio negative significand (Nat.pow 10 (-exponent).toNat)

end Binary64

end IndicatorFeeds
