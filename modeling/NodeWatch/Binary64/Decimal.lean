/-
NodeWatch.Binary64.Decimal — doubles from decimal digits, in two roundings.

A decimal is an integer significand and a power of ten.  Its double is
made in two steps: the significand is rounded to a double, then
multiplied or divided by the double nearest to the power of ten, with a
second rounding.  So the result can be off the nearest double in the last
place.  Powers of ten are at hand up to 308; a smaller exponent is
reached by dividing by the double of 1e308 again and again, a larger one
is out of range unless the significand is zero.
-/
import NodeWatch.Binary64.Basic

namespace NodeWatch.Binary64

/-- The largest power of ten below infinity. -/
def maxPowerOfTen : Nat := 308

/-- The double nearest to a power of ten. -/
def powerOfTen (n : Nat) : Binary64 :=
  ofNat (10 ^ n)

/-- `x` divided by ten to `maxPowerOfTen`, `times` times or until nothing is left. -/
def sink (x : Binary64) : Nat → Binary64
  | 0 => x
  | times + 1 => if x.isZero then x else sink (x.quotient (powerOfTen maxPowerOfTen)) times

/-- The double of `significand * 10 ^ exponent`, sign aside; `none` if it
is out of range. -/
def ofDecimal (significand : Nat) (exponent : Int) : Option Binary64 :=
  let x := ofNat significand
  if 0 ≤ exponent then
    if exponent.toNat ≤ maxPowerOfTen then
      let product := x.product (powerOfTen exponent.toNat)
      if product.isInfinite then none else some product
    else if x.isZero then some x
    else none
  else
    let below := (-exponent).toNat
    if below ≤ maxPowerOfTen then some (x.quotient (powerOfTen below))
    else
      let steps := (below - 1) / maxPowerOfTen
      some ((sink x steps).quotient (powerOfTen (below - steps * maxPowerOfTen)))

end NodeWatch.Binary64
