/-
NodeWatch.Word — arithmetic on 64-bit words that says when it fails.

Durable ids and epoch milliseconds are signed words, snapshot intervals
unsigned ones.  A result outside the word is no result at all: each
operation below answers with the operation that overflowed, so that a
caller decides what is lost with it.  Everything else about a word is
read through `Int64.toInt` and `UInt64.toNat`.
-/

namespace NodeWatch

-- A power of a number is that of the core library, whatever else is imported.
attribute [instance (high), default_instance (high + 1)] instPowNat

/-- The operation whose result does not fit its word. -/
inductive Overflow where
  | add
  | subtract
  | multiply
  deriving DecidableEq, Repr

/-- The text under which an overflow is reported. -/
def Overflow.message : Overflow → String
  | .add => "attempt to add with overflow"
  | .subtract => "attempt to subtract with overflow"
  | .multiply => "attempt to multiply with overflow"

namespace Word

/-- The integers that a signed word holds. -/
def FitsSigned (n : Int) : Prop :=
  -2 ^ 63 ≤ n ∧ n < 2 ^ 63

instance (n : Int) : Decidable (FitsSigned n) :=
  inferInstanceAs (Decidable (_ ∧ _))

/-- The largest number that an unsigned word shares with a signed one. -/
def signedMax : UInt64 :=
  9223372036854775807

/-- `n` as a signed word, or the operation that led out of the word. -/
def signed (operation : Overflow) (n : Int) : Except Overflow Int64 :=
  if FitsSigned n then .ok (Int64.ofInt n) else .error operation

/-- The sum of two signed words. -/
def add (a b : Int64) : Except Overflow Int64 :=
  signed .add (a.toInt + b.toInt)

/-- The difference of two signed words. -/
def subtract (a b : Int64) : Except Overflow Int64 :=
  signed .subtract (a.toInt - b.toInt)

/-- The product of two unsigned words. -/
def multiply (a b : UInt64) : Except Overflow UInt64 :=
  if a.toNat * b.toNat < 2 ^ 64 then .ok (UInt64.ofNat (a.toNat * b.toNat))
  else .error .multiply

theorem toInt_of_signed {operation : Overflow} {n : Int} {w : Int64}
    (h : signed operation n = .ok w) : w.toInt = n := by
  unfold signed at h
  split at h
  · next fits =>
    cases h
    exact Int64.toInt_ofInt_of_le fits.1 fits.2
  · cases h

/-- A number that an unsigned word shares with a signed one is the same in both. -/
theorem toInt_toInt64 {n : UInt64} (small : n.toNat < 2 ^ 63) : n.toInt64.toInt = n.toNat :=
  BitVec.toInt_eq_toNat_of_lt (x := n.toBitVec) (by simpa using (by omega : 2 * n.toNat < 2 ^ 64))

theorem toNat_of_multiply {a b product : UInt64} (h : multiply a b = .ok product) :
    product.toNat = a.toNat * b.toNat := by
  unfold multiply at h
  split at h
  · next fits =>
    cases h
    exact UInt64.toNat_ofNat_of_lt' fits
  · cases h

theorem multiply_eq_error {a b : UInt64} {operation : Overflow}
    (h : multiply a b = .error operation) :
    operation = .multiply ∧ 2 ^ 64 ≤ a.toNat * b.toNat := by
  unfold multiply at h
  split at h
  · cases h
  · next large =>
    cases h
    exact ⟨rfl, Nat.le_of_not_lt large⟩

end Word

/-! ## Steps that may fail -/

theorem bind_eq_ok {ε α β : Type} {x : Except ε α} {f : α → Except ε β} {b : β} :
    (x >>= f) = .ok b ↔ ∃ a, x = .ok a ∧ f a = .ok b := by
  cases x <;> simp [bind, Except.bind]

theorem bind_eq_error {ε α β : Type} {x : Except ε α} {f : α → Except ε β} {cause : ε} :
    (x >>= f) = .error cause ↔ x = .error cause ∨ ∃ a, x = .ok a ∧ f a = .error cause := by
  cases x <;> simp [bind, Except.bind]

end NodeWatch
