/-
NodeWatch.Binary64.Shortest — the fewest digits that read back.

Every double stands for the interval of reals that round to it; the ends
belong to it when its significand is even.  Among the decimals in that
interval the ones with the fewest digits are the shortest, and of those
the one nearest to the double is its text; of two that are equally near,
the one with the even last digit.

On the grid of decimals with a given last place, if any point lies in
the interval then so does one of the two neighbours of the double, since
the interval holds the double.  So only those two are looked at, for one,
two, and up to seventeen digits, which always suffice.
-/
import NodeWatch.Binary64.Basic

namespace NodeWatch.Binary64

/-- A decimal: `digits * 10 ^ place`. -/
structure Decimal where
  digits : Nat
  place : Int
  deriving DecidableEq, Repr

/-- Whether `a * 10 ^ i ≤ b * 2 ^ j`. -/
def decimalLeBinary (a : Nat) (i : Int) (b : Nat) (j : Int) : Bool :=
  decide (a * 10 ^ i.toNat * 2 ^ (-j).toNat ≤ b * 2 ^ j.toNat * 10 ^ (-i).toNat)

/-- Whether `b * 2 ^ j ≤ a * 10 ^ i`. -/
def binaryLeDecimal (b : Nat) (j : Int) (a : Nat) (i : Int) : Bool :=
  decide (b * 2 ^ j.toNat * 10 ^ (-i).toNat ≤ a * 10 ^ i.toNat * 2 ^ (-j).toNat)

/-- The largest `a` with `a * 10 ^ i ≤ b * 2 ^ j`. -/
def decimalFloor (b : Nat) (j : Int) (i : Int) : Nat :=
  b * 2 ^ j.toNat * 10 ^ (-i).toNat / (10 ^ i.toNat * 2 ^ (-j).toNat)

/-- The place of the first digit of `b * 2 ^ j`, for `b` not zero.  The
fraction 1233 / 4096 is log 2 to five places, so the first guess is off
by one at most. -/
def firstPlace (b : Nat) (j : Int) : Int :=
  let guess := ((b.log2 : Int) + j) * 1233 / 4096
  if decimalLeBinary 1 (guess + 1) b j then guess + 1
  else if decimalLeBinary 1 guess b j then guess
  else guess - 1

/-- The point of the grid with last place `place` that lies in the
interval of `m * 2 ^ e` and is nearest to it. -/
def onGrid (m : Nat) (e : Int) (place : Int) : Option Decimal :=
  let below := decimalFloor m e place
  let above := below + 1
  -- in quarters of the unit, for the interval's ends
  let low := if m = 2 ^ 52 ∧ -1074 < e then 4 * m - 1 else 4 * m - 2
  let high := 4 * m + 2
  let closed := m % 2 == 0
  let inBelow := if closed then binaryLeDecimal low (e - 2) below place
    else !decimalLeBinary below place low (e - 2)
  let inAbove := if closed then decimalLeBinary above place high (e - 2)
    else !binaryLeDecimal high (e - 2) above place
  let belowNearer := !decimalLeBinary (below + above) place (2 * m) e
  let aboveNearer := !binaryLeDecimal (2 * m) e (below + above) place
  if inBelow && inAbove then
    if belowNearer then some ⟨below, place⟩
    else if aboveNearer then some ⟨above, place⟩
    else if below % 2 = 0 then some ⟨below, place⟩
    else some ⟨above, place⟩
  else if inBelow then some ⟨below, place⟩
  else if inAbove then some ⟨above, place⟩
  else none

/-- The shortest decimal of a finite number that is not zero, sign aside. -/
def shortest (x : Binary64) : Decimal :=
  let first := firstPlace x.significand x.exponent
  let grids := (List.range 17).map fun (n : Nat) => first - n
  (grids.findSome? (onGrid x.significand x.exponent)).getD ⟨0, 0⟩

end NodeWatch.Binary64
