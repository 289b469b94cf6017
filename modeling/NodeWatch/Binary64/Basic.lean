/-
NodeWatch.Binary64.Basic — double-precision numbers as words.

A number is its 64-bit word: a sign, eleven exponent bits and fifty-two
fraction bits.  All arithmetic here is exact arithmetic on natural
numbers followed by one rounding, `nearest`: the word whose value is
nearest to `num / den * 2 ^ exponent`, of two the one with the even
significand.  Beyond the largest number the nearest word is infinity.

A carry out of the fraction runs into the exponent bits, which is why a
rounded significand is simply added to the exponent's multiple of 2 ^ 52.
-/
import NodeWatch.Word

namespace NodeWatch

/-- A double-precision number, as the word that holds it. -/
structure Binary64 where
  bits : UInt64
  deriving DecidableEq, Repr

namespace Binary64

/-! ## 1. The parts of a word -/

/-- Whether the sign bit is set. -/
def negative (x : Binary64) : Bool :=
  decide (2 ^ 63 ≤ x.bits.toNat)

/-- The exponent bits. -/
def exponentField (x : Binary64) : Nat :=
  x.bits.toNat / 2 ^ 52 % 2 ^ 11

/-- The fraction bits. -/
def fraction (x : Binary64) : Nat :=
  x.bits.toNat % 2 ^ 52

/-- Not a number: the exponent bits are all set and the fraction is not zero. -/
def isNaN (x : Binary64) : Bool :=
  x.exponentField == 2047 && x.fraction != 0

/-- One of the two infinities. -/
def isInfinite (x : Binary64) : Bool :=
  x.exponentField == 2047 && x.fraction == 0

/-- One of the two zeros. -/
def isZero (x : Binary64) : Bool :=
  x.exponentField == 0 && x.fraction == 0

/-- The significand of a finite number: an integer below 2 ^ 53. -/
def significand (x : Binary64) : Nat :=
  if x.exponentField = 0 then x.fraction else 2 ^ 52 + x.fraction

/-- The power of two that the significand of a finite number counts. -/
def exponent (x : Binary64) : Int :=
  if x.exponentField = 0 then -1074 else (x.exponentField : Int) - 1075

/-- Whether two words stand for the same value: equal words that are
numbers, or two zeros of any sign. -/
def sameValue (x y : Binary64) : Bool :=
  (x.isZero && y.isZero) || (!x.isNaN && x == y)

/-! ## 2. Rounding -/

/-- The word of positive infinity. -/
def infinityWord : Nat :=
  2047 * 2 ^ 52

/-- `num / den * 2 ^ (-shift)` as a fraction. -/
def scale (num den : Nat) (shift : Int) : Nat × Nat :=
  if 0 ≤ shift then (num, den * 2 ^ shift.toNat) else (num * 2 ^ (-shift).toNat, den)

/-- The exponent of the largest power of two that is at most `num / den`. -/
def floorLog2 (num den : Nat) : Int :=
  let guess : Int := (num.log2 : Int) - den.log2
  let (n, d) := scale num den guess
  if d ≤ n then guess else guess - 1

/-- The integer nearest to `num / den`, of two the even one. -/
def roundHalfEven (num den : Nat) : Nat :=
  let quotient := num / den
  let twice := 2 * (num % den)
  if twice < den then quotient
  else if den < twice then quotient + 1
  else quotient + quotient % 2

/-- The word, sign aside, nearest to `num / den * 2 ^ power`. -/
def nearest (num den : Nat) (power : Int) : Nat :=
  let (num, den) := scale num den (-power)
  if num = 0 then 0
  else
    let unit := max (floorLog2 num den - 52) (-1074)
    let (n, d) := scale num den unit
    min ((unit + 1074).toNat * 2 ^ 52 + roundHalfEven n d) infinityWord

/-- The number with the given sign and, sign aside, the given word. -/
def ofSign (negative : Bool) (word : Nat) : Binary64 :=
  ⟨UInt64.ofNat (if negative then 2 ^ 63 + word else word)⟩

/-- The number nearest to a natural number. -/
def ofNat (n : Nat) : Binary64 :=
  ofSign false (nearest n 1 0)

/-- The number nearest to an integer; zero is not negative. -/
def ofInt (n : Int) : Binary64 :=
  ofSign (decide (n < 0)) (nearest n.natAbs 1 0)

/-- The number with the opposite sign. -/
def neg (x : Binary64) : Binary64 :=
  ⟨x.bits ^^^ 0x8000000000000000⟩

/-- The product of two finite numbers that are not negative, rounded. -/
def product (x y : Binary64) : Binary64 :=
  ofSign false (nearest (x.significand * y.significand) 1 (x.exponent + y.exponent))

/-- The quotient of two finite numbers that are not negative, rounded.
The divisor is not zero. -/
def quotient (x y : Binary64) : Binary64 :=
  ofSign false (nearest x.significand y.significand (x.exponent - y.exponent))

/-! ## 3. To an integer -/

/-- The integer part, sign kept: a finite number cut toward zero. -/
def integerPart (x : Binary64) : Int :=
  let (n, d) := scale x.significand 1 (-x.exponent)
  if x.negative then -((n / d : Nat) : Int) else ((n / d : Nat) : Int)

/-- The nearest signed word that is not farther from zero: the integer
part, held to the ends of the signed range.  Not-a-number gives zero. -/
def toSigned (x : Binary64) : Int64 :=
  if x.isNaN then 0
  else if x.isInfinite then (if x.negative then Int64.minValue else Int64.maxValue)
  else Int64.ofInt (max (-2 ^ 63) (min (2 ^ 63 - 1) x.integerPart))

end Binary64

end NodeWatch
