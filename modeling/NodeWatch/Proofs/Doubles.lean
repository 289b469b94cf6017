/-
NodeWatch.Proofs.Doubles — the rational values of doubles, and two conversions.

A finite double stands for a rational number (`value`).  Read as a signed word
it is that number, cut toward zero and held to the range of the word
(`toInt_toSigned`).  The double of an integer below `2 ^ 53` stands for just
that integer (`value_ofInt`); that of a larger one is rounded, and what an
unsigned word beyond the signed range is rounded to still lies beyond it
(`toSigned_ofNat_of_le`).

The binade of an integer is that of its leading bit, so its significand has 53
bits, or is the power of two after them if rounding has carried
(`exists_nearest`).  Either way the word is read back as the same product
(`value_ofSign`).
-/
import Mathlib.Data.Rat.Floor
import Mathlib.Tactic.Linarith
import Mathlib.Tactic.Ring
import NodeWatch.Binary64.Basic

namespace NodeWatch

/-! ## 1. Rational numbers and signed words -/

/-- The integer next to a rational number on the side of zero. -/
def towardZero (q : ℚ) : ℤ :=
  if 0 ≤ q then ⌊q⌋ else ⌈q⌉

/-- The nearest integer in the range of a signed word. -/
def held (i : ℤ) : ℤ :=
  max (-2 ^ 63) (min (2 ^ 63 - 1) i)

theorem fits_held (i : ℤ) : Word.FitsSigned (held i) := by
  unfold Word.FitsSigned held
  omega

theorem held_of_fits {i : ℤ} (fits : Word.FitsSigned i) : held i = i := by
  unfold Word.FitsSigned at fits
  unfold held
  omega

theorem towardZero_intCast (i : ℤ) : towardZero i = i := by
  unfold towardZero
  split
  · exact Int.floor_intCast i
  · exact Int.ceil_intCast i

theorem towardZero_neg {m : ℚ} (nonneg : 0 ≤ m) : towardZero (-m) = -⌊m⌋ := by
  unfold towardZero
  split
  · next zero =>
    obtain rfl : m = 0 := le_antisymm (by linarith) nonneg
    simp
  · exact Int.ceil_neg

namespace Binary64

/-! ## 2. Values -/

/-- Whether a double stands for a number. -/
def isFinite (x : Binary64) : Bool :=
  x.exponentField != 2047

/-- The number that a finite double stands for. -/
def value (x : Binary64) : ℚ :=
  (if x.negative then -1 else 1) * (x.significand * (2 : ℚ) ^ x.exponent)

theorem floor_scale (n : Nat) (e : ℤ) :
    ⌊(n : ℚ) * (2 : ℚ) ^ e⌋ = ((scale n 1 (-e)).1 / (scale n 1 (-e)).2 : Nat) := by
  unfold scale
  split
  · next low =>
    obtain ⟨k, rfl⟩ : ∃ k : Nat, e = -(k : ℤ) := ⟨(-e).toNat, by omega⟩
    have power : (n : ℚ) * (2 : ℚ) ^ (-(k : ℤ)) = (n : ℚ) / ((2 ^ k : Nat) : ℚ) := by
      rw [zpow_neg, zpow_natCast, Nat.cast_pow, Nat.cast_ofNat, div_eq_mul_inv]
    rw [power, Rat.floor_natCast_div_natCast]
    simp
  · next high =>
    obtain ⟨k, rfl⟩ : ∃ k : Nat, e = (k : ℤ) := ⟨e.toNat, by omega⟩
    have power : (n : ℚ) * (2 : ℚ) ^ (k : ℤ) = ((n * 2 ^ k : Nat) : ℚ) := by
      rw [zpow_natCast, Nat.cast_mul, Nat.cast_pow, Nat.cast_ofNat]
    rw [power, Int.floor_natCast, Nat.div_one, neg_neg, Int.toNat_natCast]

/-- The integer part of a double is its value cut toward zero. -/
theorem integerPart_eq (x : Binary64) : x.integerPart = towardZero x.value := by
  have floor := floor_scale x.significand x.exponent
  have nonneg : (0 : ℚ) ≤ x.significand * (2 : ℚ) ^ x.exponent :=
    mul_nonneg (Nat.cast_nonneg _) (zpow_nonneg zero_le_two _)
  unfold integerPart value
  cases x.negative with
  | true =>
    simp only [if_true, neg_one_mul]
    rw [towardZero_neg nonneg, floor]
  | false =>
    simp only [Bool.false_eq_true, if_false, one_mul]
    rw [towardZero, if_pos nonneg, floor]

/-- A finite double is read as the signed word that is its value cut toward zero
and held to the range of the word. -/
theorem toInt_toSigned {x : Binary64} (finite : x.isFinite = true) :
    x.toSigned.toInt = held (towardZero x.value) := by
  have other : (x.exponentField == 2047) = false := by simpa [isFinite] using finite
  have number : x.isNaN = false := by simp [isNaN, other]
  have bounded : x.isInfinite = false := by simp [isInfinite, other]
  have fits := fits_held x.integerPart
  rw [toSigned, number, bounded, ← integerPart_eq]
  exact Int64.toInt_ofInt_of_le fits.1 fits.2

/-! ## 3. Integers -/

theorem toNat_bits_ofSign (negative : Bool) {w : Nat} (small : w < 2 ^ 63) :
    (ofSign negative w).bits.toNat = if negative then 2 ^ 63 + w else w := by
  unfold ofSign
  refine UInt64.toNat_ofNat_of_lt' ?_
  show _ < 2 ^ 64
  split <;> omega

/-- The parts that a word was made of. -/
theorem parts_ofSign (negative : Bool) {w : Nat} (small : w < 2 ^ 63) :
    (ofSign negative w).negative = negative ∧ (ofSign negative w).exponentField = w / 2 ^ 52 ∧
      (ofSign negative w).fraction = w % 2 ^ 52 := by
  have bits := toNat_bits_ofSign negative small
  rw [Binary64.negative, exponentField, fraction, bits]
  cases negative with
  | true =>
    refine ⟨decide_eq_true ?_, ?_, ?_⟩ <;> simp only [if_true] <;> omega
  | false =>
    refine ⟨decide_eq_false ?_, ?_, ?_⟩ <;> simp only [Bool.false_eq_true, if_false] <;> omega

/-- A word is read back as the significand and the binade that it was made of,
also where the significand has carried. -/
theorem value_ofSign (negative : Bool) {e s : Nat} (small : e ≤ 2044) (low : 2 ^ 52 ≤ s)
    (high : s ≤ 2 ^ 53) :
    (ofSign negative (e * 2 ^ 52 + s)).isFinite = true ∧
      (ofSign negative (e * 2 ^ 52 + s)).value =
        (if negative then -1 else 1) * (s * (2 : ℚ) ^ ((e : ℤ) - 1074)) := by
  obtain ⟨sign, field, fraction⟩ := parts_ofSign negative (w := e * 2 ^ 52 + s) (by omega)
  have two : (2 : ℚ) ≠ 0 := two_ne_zero
  rcases Nat.lt_or_eq_of_le high with inside | rfl
  · have field' : (e * 2 ^ 52 + s) / 2 ^ 52 = e + 1 := by omega
    have fraction' : (e * 2 ^ 52 + s) % 2 ^ 52 = s - 2 ^ 52 := by omega
    rw [field'] at field
    rw [fraction'] at fraction
    have significand : (ofSign negative (e * 2 ^ 52 + s)).significand = s := by
      rw [significand, field, fraction, if_neg (by omega)]
      omega
    have exponent : (ofSign negative (e * 2 ^ 52 + s)).exponent = (e : ℤ) - 1074 := by
      rw [exponent, field, if_neg (by omega)]
      omega
    refine ⟨?_, ?_⟩
    · rw [isFinite, field, bne_iff_ne]
      omega
    · rw [value, sign, significand, exponent]
  · have field' : (e * 2 ^ 52 + 2 ^ 53) / 2 ^ 52 = e + 2 := by omega
    have fraction' : (e * 2 ^ 52 + 2 ^ 53) % 2 ^ 52 = 0 := by omega
    rw [field'] at field
    rw [fraction'] at fraction
    have significand : (ofSign negative (e * 2 ^ 52 + 2 ^ 53)).significand = 2 ^ 52 := by
      rw [significand, field, fraction, if_neg (by omega)]
    have exponent : (ofSign negative (e * 2 ^ 52 + 2 ^ 53)).exponent = (e : ℤ) - 1074 + 1 := by
      rw [exponent, field, if_neg (by omega)]
      omega
    refine ⟨?_, ?_⟩
    · rw [isFinite, field, bne_iff_ne]
      omega
    · rw [value, sign, significand, exponent, zpow_add₀ two, zpow_one]
      push_cast
      ring

theorem floorLog2_eq {n : Nat} (positive : n ≠ 0) : floorLog2 n 1 = n.log2 := by
  have le := Nat.log2_self_le positive
  have one : Nat.log2 1 = 0 := by decide
  unfold floorLog2
  simp [scale, le, one]

/-- A multiple needs no rounding. -/
theorem roundHalfEven_mul (k : Nat) {d : Nat} (positive : 0 < d) : roundHalfEven (k * d) d = k := by
  unfold roundHalfEven
  simp [positive]

theorem roundHalfEven_bounds {n d low high : Nat} (lower : low ≤ n / d) (upper : n / d < high) :
    low ≤ roundHalfEven n d ∧ roundHalfEven n d ≤ high := by
  unfold roundHalfEven
  dsimp only
  split
  · omega
  · split <;> omega

/-- The significand of a positive integer, before it is rounded. -/
theorem scale_bounds {n : Nat} (positive : n ≠ 0) :
    2 ^ 52 ≤ (scale n 1 (n.log2 - 52)).1 / (scale n 1 (n.log2 - 52)).2 ∧
      (scale n 1 (n.log2 - 52)).1 / (scale n 1 (n.log2 - 52)).2 < 2 ^ 53 := by
  have lower := Nat.log2_self_le positive
  have upper := Nat.lt_log2_self (n := n)
  unfold scale
  split
  · next big =>
    obtain ⟨k, same⟩ : ∃ k, n.log2 = 52 + k := ⟨n.log2 - 52, by omega⟩
    have shift : ((n.log2 : ℤ) - 52).toNat = k := by omega
    rw [same] at lower upper
    rw [shift, Nat.one_mul, Nat.le_div_iff_mul_le (Nat.two_pow_pos k),
      Nat.div_lt_iff_lt_mul (Nat.two_pow_pos k), ← Nat.pow_add, ← Nat.pow_add]
    exact ⟨lower, by rwa [show 53 + k = 52 + k + 1 by omega]⟩
  · next small =>
    obtain ⟨k, same⟩ : ∃ k, n.log2 + k = 52 := ⟨52 - n.log2, by omega⟩
    have shift : (-((n.log2 : ℤ) - 52)).toNat = k := by omega
    have positive' := Nat.two_pow_pos k
    rw [shift, Nat.div_one, ← same, show 53 = n.log2 + 1 + k by omega, Nat.pow_add,
      Nat.pow_add _ _ k]
    exact ⟨Nat.mul_le_mul_right _ lower, Nat.mul_lt_mul_of_pos_right upper positive'⟩

/-- The word of a positive integer: its binade, and a significand of 53 bits or
the power of two after them. -/
theorem exists_nearest {n : Nat} (positive : n ≠ 0) (small : n.log2 ≤ 900) :
    ∃ s, nearest n 1 0 = (n.log2 + 1022) * 2 ^ 52 + s ∧ 2 ^ 52 ≤ s ∧ s ≤ 2 ^ 53 ∧
      (n.log2 ≤ 52 → s = n * 2 ^ (52 - n.log2)) := by
  obtain ⟨lower, upper⟩ := scale_bounds positive
  obtain ⟨low, high⟩ := roundHalfEven_bounds lower upper
  have same : scale n 1 (-0) = (n, 1) := by simp [scale]
  have unit : max (floorLog2 n 1 - 52) (-1074) = (n.log2 : ℤ) - 52 := by
    rw [floorLog2_eq positive]
    omega
  refine ⟨roundHalfEven (scale n 1 (n.log2 - 52)).1 (scale n 1 (n.log2 - 52)).2, ?_, low, high, ?_⟩
  · unfold nearest
    rw [same]
    simp only [if_neg positive, unit]
    rw [show ((n.log2 : ℤ) - 52 + 1074).toNat = n.log2 + 1022 by omega]
    refine Nat.min_eq_left ?_
    unfold infinityWord
    omega
  · intro short
    have whole : scale n 1 (n.log2 - 52) = (n * 2 ^ (52 - n.log2), 1) := by
      rcases Nat.lt_or_eq_of_le short with less | same
      · have shift : (-((n.log2 : ℤ) - 52)).toNat = 52 - n.log2 := by omega
        rw [scale, if_neg (by omega), shift]
      · simp [scale, same]
    have exact_ := roundHalfEven_mul (n * 2 ^ (52 - n.log2)) Nat.one_pos
    rw [Nat.mul_one] at exact_
    rw [whole, exact_]

/-- The double of an integer below `2 ^ 53` stands for that integer. -/
theorem value_ofInt {i : ℤ} (small : i.natAbs < 2 ^ 53) :
    (ofInt i).isFinite = true ∧ (ofInt i).value = i := by
  by_cases zero : i = 0
  · subst zero
    refine ⟨by decide, ?_⟩
    have none : (ofInt 0).significand = 0 := by decide
    rw [value, none]
    simp
  · have positive : i.natAbs ≠ 0 := Int.natAbs_ne_zero.2 zero
    have short : i.natAbs.log2 ≤ 52 := Nat.lt_succ_iff.1 ((Nat.log2_lt positive).2 small)
    obtain ⟨s, word, low, high, whole⟩ := exists_nearest positive (by omega)
    obtain ⟨finite, value⟩ :=
      value_ofSign (decide (i < 0)) (e := i.natAbs.log2 + 1022) (by omega) low high
    rw [ofInt, word]
    refine ⟨finite, ?_⟩
    obtain ⟨k, same⟩ : ∃ k, i.natAbs.log2 + k = 52 := ⟨52 - i.natAbs.log2, by omega⟩
    have shift : 52 - i.natAbs.log2 = k := by omega
    have power : ((i.natAbs.log2 + 1022 : Nat) : ℤ) - 1074 = -(k : ℤ) := by omega
    have product : (s : ℚ) * (2 : ℚ) ^ (-(k : ℤ)) = (i.natAbs : ℚ) := by
      rw [whole short, shift, zpow_neg, zpow_natCast]
      push_cast
      exact mul_inv_cancel_right₀ (pow_ne_zero k two_ne_zero) _
    rw [value, power, product]
    by_cases below : i < 0
    · have magnitude : (i.natAbs : ℤ) = -i := by omega
      rw [if_pos (decide_eq_true below), ← Int.cast_natCast, magnitude, Int.cast_neg]
      ring
    · have magnitude : (i.natAbs : ℤ) = i := by omega
      rw [if_neg (by simpa using below), ← Int.cast_natCast, magnitude, one_mul]

theorem ofNat_eq_ofInt (n : Nat) : ofNat n = ofInt n := by
  unfold ofNat ofInt
  rw [decide_eq_false (by omega), Int.natAbs_natCast]

/-- An unsigned word beyond the signed range is rounded to a number beyond it. -/
theorem toSigned_ofNat_of_le {n : Nat} (low : 2 ^ 63 ≤ n) (high : n < 2 ^ 64) :
    (ofNat n).toSigned.toInt = 2 ^ 63 - 1 := by
  have positive : n ≠ 0 := by omega
  have top : n.log2 = 63 := by
    have less := (Nat.log2_lt positive).2 high
    have le := (Nat.le_log2 positive).2 low
    omega
  obtain ⟨s, word, least, most, -⟩ := exists_nearest positive (by omega)
  obtain ⟨finite, value⟩ := value_ofSign false (e := n.log2 + 1022) (by omega) least most
  rw [← word] at finite value
  have binade : ((n.log2 + 1022 : Nat) : ℤ) - 1074 = (11 : Nat) := by omega
  have whole : (ofSign false (nearest n 1 0)).value = ((s * 2 ^ 11 : ℤ) : ℚ) := by
    rw [value, binade, zpow_natCast]
    push_cast
    ring
  rw [ofNat, toInt_toSigned finite, whole, towardZero_intCast, held]
  omega

end Binary64

end NodeWatch
