/-
NodeWatch.Proofs.Samples — what an average has of its samples.

An average is asked to record samples and gives up what it has whenever it is
taken.  Its calls are read here as groups of samples, each recorded between two
takes (`spelled`), and every sequence of calls can be read so (`exists_spelled`).

* An average has the sum and the number of its samples, each cut to the largest
  value of its word (`ofSamples_eq`), and hence exactly as long as the number
  fits its word (`ofSamples_exact`): a sum of so many words is far from the
  largest one.
* The mean of that many samples fits a word, too, and lies between any bounds of
  the samples (`mean_ofSamples`, `mean_between`).

Main statement: whatever is called, each take gives the average of one group,
the average of the last group is left, and the groups are all samples in their
order, none lost and none twice (`samples_accumulate`).
-/
import Mathlib.Data.List.Forall2
import Mathlib.Data.List.Induction
import NodeWatch.Tracker.Average

namespace NodeWatch

namespace Average

/-! ## 1. Sums and counts -/

/-- Samples, one after the other. -/
def ofSamples (samples : List UInt64) : Average :=
  samples.foldl record empty

/-- The sum of samples, of any size. -/
def total : List UInt64 → Nat
  | [] => 0
  | x :: rest => x.toNat + total rest

/-- The mean of samples, cut to an integer; none without samples. -/
def integerMean (samples : List UInt64) : Option Nat :=
  if samples.length = 0 then none else some (total samples / samples.length)

@[simp] theorem total_concat (samples : List UInt64) (x : UInt64) :
    total (samples ++ [x]) = total samples + x.toNat := by
  induction samples with
  | nil => exact Nat.add_comm x.toNat 0
  | cons y rest ih => rw [List.cons_append, total, total, ih, Nat.add_assoc]

theorem ofSamples_concat (samples : List UInt64) (x : UInt64) :
    ofSamples (samples ++ [x]) = (ofSamples samples).record x := by
  simp [ofSamples]

/-- A bound of all samples bounds their sum. -/
theorem total_le_of_forall {samples : List UInt64} {high : Nat}
    (bound : ∀ x ∈ samples, x.toNat ≤ high) : total samples ≤ samples.length * high := by
  induction samples with
  | nil => exact Nat.zero_le _
  | cons x rest ih =>
    obtain ⟨first, others⟩ := List.forall_mem_cons.1 bound
    have sum := ih others
    rw [total, List.length_cons, Nat.succ_mul]
    omega

theorem le_total_of_forall {samples : List UInt64} {low : Nat}
    (bound : ∀ x ∈ samples, low ≤ x.toNat) : samples.length * low ≤ total samples := by
  induction samples with
  | nil => simp [total]
  | cons x rest ih =>
    obtain ⟨first, others⟩ := List.forall_mem_cons.1 bound
    have sum := ih others
    rw [total, List.length_cons, Nat.succ_mul]
    omega

theorem total_le (samples : List UInt64) : total samples ≤ samples.length * (2 ^ 64 - 1) :=
  total_le_of_forall fun x _ => Nat.le_pred_of_lt x.toNat_lt

/-- Any number of samples is summed and counted up to the largest values. -/
theorem ofSamples_eq (samples : List UInt64) :
    ofSamples samples = ⟨min (total samples) maxSum, min samples.length maxCount⟩ := by
  induction samples using List.reverseRecOn with
  | nil => rfl
  | append_singleton samples x ih =>
    rw [ofSamples_concat, ih, record, total_concat, List.length_append, List.length_singleton]
    -- Once the largest value is reached, adding to it is cut to the same value again.
    simp only [mk.injEq]
    omega

/-- Fewer than 2 ^ 64 samples are summed and counted exactly. -/
theorem ofSamples_exact {samples : List UInt64} (few : samples.length < 2 ^ 64) :
    ofSamples samples = ⟨total samples, samples.length⟩ := by
  have bound := total_le samples
  -- (2 ^ 64 - 1) ^ 2 is less than 2 ^ 128 - 1.
  have sum : total samples ≤ maxSum := by
    unfold maxSum
    omega
  have count : samples.length ≤ maxCount := Nat.le_pred_of_lt few
  rw [ofSamples_eq, Nat.min_eq_left sum, Nat.min_eq_left count]

/-! ## 2. Means -/

/-- The quotient of a sum and a number of words is a word. -/
theorem quotient_lt (samples : List UInt64) : total samples / samples.length < 2 ^ 64 :=
  Nat.lt_of_le_of_lt (Nat.div_le_of_le_mul (total_le samples)) (by decide)

theorem mean_ofSamples {samples : List UInt64} (few : samples.length < 2 ^ 64) :
    (ofSamples samples).mean.map UInt64.toNat = integerMean samples := by
  rw [ofSamples_exact few]
  unfold mean integerMean
  by_cases none : samples.length = 0
  · simp [none]
  · simp only [none, if_false, Option.map_some]
    rw [UInt64.toNat_ofNat_of_lt' (quotient_lt samples)]

/-- What bounds all samples bounds their mean. -/
theorem mean_between {samples : List UInt64} (few : samples.length < 2 ^ 64) {m : UInt64}
    (found : (ofSamples samples).mean = some m) {low high : UInt64}
    (bound : ∀ x ∈ samples, low ≤ x ∧ x ≤ high) : low ≤ m ∧ m ≤ high := by
  have mean := mean_ofSamples few
  rw [found, integerMean] at mean
  split at mean
  · cases mean
  · next inhabited =>
    have quotient : m.toNat = total samples / samples.length := Option.some.inj mean
    have positive : 0 < samples.length := Nat.pos_of_ne_zero inhabited
    rw [UInt64.le_iff_toNat_le, UInt64.le_iff_toNat_le, quotient]
    constructor
    · rw [Nat.le_div_iff_mul_le positive, Nat.mul_comm]
      exact le_total_of_forall fun x mem => UInt64.le_iff_toNat_le.1 (bound x mem).1
    · exact Nat.div_le_of_le_mul
        (total_le_of_forall fun x mem => UInt64.le_iff_toNat_le.1 (bound x mem).2)

/-! ## 3. Calls -/

/-- A call that changes an average. -/
inductive Call where
  | record (sample : UInt64)
  | take
  deriving DecidableEq, Repr

/-- The sample that a call records. -/
def Call.sample? : Call → Option UInt64
  | .record x => some x
  | .take => none

/-- What has been taken of an average, in order, and what it is now. -/
structure Ledger where
  taken : List Average
  current : Average
  deriving DecidableEq, Repr

/-- What a call does. -/
def Ledger.after (l : Ledger) : Call → Ledger
  | .record x => { l with current := l.current.record x }
  | .take => ⟨l.taken ++ [l.current.take.1], l.current.take.2⟩

/-- What some calls do, one after the other. -/
def run (start : Average) (calls : List Call) : Ledger :=
  calls.foldl Ledger.after ⟨[], start⟩

/-- How an average comes about, with at most one sample. -/
inductive Start where
  | empty
  | sample (x : UInt64)
  | option (x : Option UInt64)
  deriving DecidableEq, Repr

/-- The average that comes about. -/
def Start.average : Start → Average
  | .empty => .empty
  | .sample x => ofSample x
  | .option x => ofOption x

/-- The samples that it has. -/
def Start.samples : Start → List UInt64
  | .empty => []
  | .sample x => [x]
  | .option x => x.toList

/-- The calls that record each of some groups of samples and take it, and record
those that come last. -/
def spelled (groups : List (List UInt64)) (last : List UInt64) : List Call :=
  groups.flatMap (fun group => group.map .record ++ [.take]) ++ last.map .record

theorem spelled_record (groups : List (List UInt64)) (last : List UInt64) (x : UInt64) :
    spelled groups (last ++ [x]) = spelled groups last ++ [.record x] := by
  simp [spelled]

theorem spelled_take (groups : List (List UInt64)) (last : List UInt64) :
    spelled (groups ++ [last]) [] = spelled groups last ++ [.take] := by
  simp [spelled]

theorem run_concat (start : Average) (calls : List Call) (call : Call) :
    run start (calls ++ [call]) = (run start calls).after call := by
  simp [run]

/-- Whatever an average starts with has been recorded by it. -/
theorem run_start (start : Start) (calls : List Call) :
    run start.average calls = run .empty (start.samples.map .record ++ calls) := by
  cases start with
  | empty => rfl
  | sample x => rfl
  | option x => cases x <;> rfl

/-- What has been taken so far, and what is left, are the averages of groups of
samples.  By induction on the calls: a sample comes to the last group, and a take
ends it. -/
theorem exists_groups (calls : List Call) :
    ∃ groups last, calls = spelled groups last ∧
      groups.flatten ++ last = calls.filterMap Call.sample? ∧
      run .empty calls = ⟨groups.map ofSamples, ofSamples last⟩ := by
  induction calls using List.reverseRecOn with
  | nil => exact ⟨[], [], rfl, rfl, rfl⟩
  | append_singleton calls call ih =>
    obtain ⟨groups, last, read, recorded, ledger⟩ := ih
    rw [run_concat, ledger, List.filterMap_append, ← recorded]
    cases call with
    | record x =>
      refine ⟨groups, last ++ [x], ?_, ?_, ?_⟩
      · rw [spelled_record, read]
      · simp [Call.sample?]
      · simp [Ledger.after, ofSamples_concat]
    | take =>
      refine ⟨groups ++ [last], [], ?_, ?_, ?_⟩
      · rw [spelled_take, read]
      · simp [Call.sample?]
      · simp [Ledger.after, ofSamples]

/-! ## 4. What is kept -/

/-- Whether an average has just some samples, without loss. -/
structure Exact (samples : List UInt64) (a : Average) : Prop where
  count : a.count = samples.length
  sum : a.sum = total samples
  /-- The quotient fits its word, so that nothing is cut off. -/
  word : a.sum / a.count < 2 ^ 64
  mean : a.mean.map UInt64.toNat = integerMean samples
  /-- The mean lies between any bounds, and so between the least and the largest
  sample. -/
  between : ∀ m low high, a.mean = some m → (∀ x ∈ samples, low ≤ x ∧ x ≤ high) →
    low ≤ m ∧ m ≤ high

/-- Whether an average has what it can have of some samples. -/
structure Keeps (samples : List UInt64) (a : Average) : Prop where
  count : a.count = min samples.length (2 ^ 64 - 1)
  sum : a.sum = min (total samples) (2 ^ 128 - 1)
  exact : samples.length ≤ 2 ^ 64 - 1 → Exact samples a

theorem exact_ofSamples {samples : List UInt64} (few : samples.length < 2 ^ 64) :
    Exact samples (ofSamples samples) where
  count := by rw [ofSamples_exact few]
  sum := by rw [ofSamples_exact few]
  word := by
    rw [ofSamples_exact few]
    exact quotient_lt samples
  mean := mean_ofSamples few
  between _ _ _ found bound := mean_between few found bound

theorem keeps_ofSamples (samples : List UInt64) : Keeps samples (ofSamples samples) where
  count := by rw [ofSamples_eq, maxCount]
  sum := by rw [ofSamples_eq, maxSum]
  exact few := exact_ofSamples (Nat.lt_of_le_pred (by decide) few)

/-- Whatever an average starts with and is called for, its calls can be read as
groups of samples, each recorded between two takes.  The groups are all samples in
their order; each take gives the average of one group, and the average of the last
group is left. -/
theorem samples_accumulate (start : Start) (calls : List Call) :
    ∃ groups last, start.samples.map .record ++ calls = spelled groups last ∧
      groups.flatten ++ last = start.samples ++ calls.filterMap Call.sample? ∧
      (run start.average calls).taken = groups.map ofSamples ∧
      (run start.average calls).current = ofSamples last ∧
      List.Forall₂ Keeps groups (run start.average calls).taken ∧
      Keeps last (run start.average calls).current := by
  obtain ⟨groups, last, read, recorded, ledger⟩ :=
    exists_groups (start.samples.map .record ++ calls)
  have first : (start.samples.map Call.record).filterMap Call.sample? = start.samples := by
    simp [List.filterMap_map, Function.comp_def, Call.sample?]
  rw [List.filterMap_append, first] at recorded
  rw [run_start, ledger]
  refine ⟨groups, last, read, recorded, rfl, rfl, ?_, keeps_ofSamples last⟩
  rw [List.forall₂_map_right_iff, List.forall₂_same]
  exact fun group _ => keeps_ofSamples group

end Average

end NodeWatch
