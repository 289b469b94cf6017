/-
NodeWatch.Tracker.Average — sums of durations, divided once at the end.

Samples are unsigned words of milliseconds.  The sum is kept to 128 bits
and the count to 64, and both stop at their largest value instead of
wrapping; with a full count the sum has not reached its end, so a mean is
exact for as long as the count is.
-/
import NodeWatch.Word

namespace NodeWatch

/-- A sum of samples and their number. -/
structure Average where
  sum : Nat
  count : Nat
  deriving DecidableEq, Repr

namespace Average

/-- The largest sum that is kept. -/
def maxSum : Nat := 2 ^ 128 - 1

/-- The largest count that is kept. -/
def maxCount : Nat := 2 ^ 64 - 1

/-- No samples. -/
def empty : Average := ⟨0, 0⟩

instance : EmptyCollection Average := ⟨empty⟩

instance : Inhabited Average := ⟨empty⟩

/-- One more sample. -/
def record (a : Average) (sample : UInt64) : Average where
  sum := min (a.sum + sample.toNat) maxSum
  count := min (a.count + 1) maxCount

/-- A single sample. -/
def ofSample (sample : UInt64) : Average :=
  empty.record sample

/-- The sample, if there is one. -/
def ofOption : Option UInt64 → Average
  | some sample => ofSample sample
  | none => empty

/-- What has been recorded so far, and what is left in its place. -/
def take (a : Average) : Average × Average :=
  (a, empty)

@[simp] theorem take_fst (a : Average) : a.take.1 = a := rfl

@[simp] theorem take_snd (a : Average) : a.take.2 = empty := rfl

/-- Whether there are no samples. -/
def isEmpty (a : Average) : Bool :=
  a.count == 0

/-- The mean of the samples, cut to an integer word; none without samples. -/
def mean (a : Average) : Option UInt64 :=
  if a.count = 0 then none else some (UInt64.ofNat (a.sum / a.count))

end Average

end NodeWatch
