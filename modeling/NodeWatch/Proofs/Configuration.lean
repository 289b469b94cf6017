/-
NodeWatch.Proofs.Configuration — what a configuration makes of its variables.

The variables may be anything.  What a numeric variable says is given here
without a word on how it is read (`Reads`): the number that is spelled in it,
or its default.  So is what all variables together must be like for a
configuration (`Acceptable`).

Main statement: variables that are not acceptable are refused, and of others
there is a configuration whose interval is exactly the minutes that they say,
in seconds, unless the seconds do not fit their word (`load_outcome`).  That
product is the one place where a number that has been accepted can be too
large, and nothing checks it: the interval of 307445734561825861 minutes leaves
neither a configuration nor an error that says why (`interval_overflows`).
-/
import NodeWatch.Config
import NodeWatch.Proofs.Literals

namespace NodeWatch

/-- A text is all blank just if trimming leaves nothing of it. -/
theorem Text.trim_eq_nil_iff {cs : List Char} : trim cs = [] ↔ Blank cs := by
  constructor
  · intro nothing
    obtain ⟨before, after, place, blank, blank'⟩ := exists_trim cs
    rw [nothing, List.nil_append] at place
    intro c member
    rw [place] at member
    exact (List.mem_append.1 member).elim (blank c) (blank' c)
  · intro blank
    have all : cs.dropWhile isBlank = [] := List.dropWhile_eq_nil_iff.2 blank
    simp [trim, all]

namespace Config

/-! ## 1. What variables say -/

/-- What a numeric variable says: the number below `limit` that is spelled in
it, or the default where it is not set or there is no such number. -/
inductive Reads (vars : Variables) (name : String) (limit : Nat) (default : UInt64) :
    UInt64 → Prop where
  | unset : vars name = none → Reads vars name limit default default
  | spelled {raw : String} {n : UInt64} : vars name = some raw →
    Text.SpellsUnsigned raw.toList n.toNat → n.toNat < limit → Reads vars name limit default n
  | unreadable {raw : String} : vars name = some raw →
    (∀ k, Text.SpellsUnsigned raw.toList k → limit ≤ k) → Reads vars name limit default default

/-- What variables must be like for a configuration. -/
structure Acceptable (vars : Variables) : Prop where
  /-- The address of the feed is one of a web socket. -/
  uri : ∀ raw, vars "WEBSOCKET_URI" = some raw →
    "ws://".toList <+: Text.trim raw.toList ∨ "wss://".toList <+: Text.trim raw.toList
  /-- The chain has a name. -/
  chain : ∀ raw, vars "CHAIN_NAME" = some raw → ¬ Text.Blank raw.toList
  /-- The interval and the two timeouts are not zero. -/
  interval : ¬ Reads vars "INTERVAL" (2 ^ 64) 5 0
  pings : ¬ Reads vars "PING_INTERVAL_MS" (2 ^ 64) 30000 0
  firstNode : ¬ Reads vars "NO_NEW_NODE_TIMEOUT_MS" (2 ^ 64) 30000 0

/-! ## 2. Single variables -/

/-- What is read of a numeric variable is what it says. -/
theorem reads_number {vars : Variables} {name : String} {limit : Nat} {default : UInt64}
    (word : limit ≤ 2 ^ 64) : Reads vars name limit default (number vars name limit default).1 := by
  cases set : vars name with
  | none =>
    have same : (number vars name limit default).1 = default := by simp [number, set]
    rw [same]
    exact .unset set
  | some raw =>
    cases read : Text.unsigned? limit (Text.trim raw.toList) with
    | none =>
      have same : (number vars name limit default).1 = default := by simp [number, set, read]
      rw [same]
      exact .unreadable set (Text.unsigned?_trim_eq_none_iff.1 read)
    | some k =>
      obtain ⟨spelled, small⟩ := Text.unsigned?_trim_eq_some_iff.1 read
      have same : (number vars name limit default).1 = UInt64.ofNat k := by
        simp [number, set, read]
      have value : (UInt64.ofNat k).toNat = k :=
        UInt64.toNat_ofNat_of_lt' (Nat.lt_of_lt_of_le small word)
      rw [same]
      rw [← value] at spelled small
      exact .spelled set spelled small

/-- A numeric variable says one thing. -/
theorem Reads.eq {vars : Variables} {name : String} {limit : Nat} {default n : UInt64}
    (reads : Reads vars name limit default n) : (number vars name limit default).1 = n := by
  cases reads with
  | unset none => simp [number, none]
  | @spelled raw n set spelled small =>
    have read := Text.unsigned?_trim_eq_some_iff.2 ⟨spelled, small⟩
    simp [number, set, read]
  | @unreadable raw set beyond =>
    have read := Text.unsigned?_trim_eq_none_iff.2 beyond
    simp [number, set, read]

theorem reads_iff {vars : Variables} {name : String} {limit : Nat} {default n : UInt64}
    (word : limit ≤ 2 ^ 64) :
    Reads vars name limit default n ↔ (number vars name limit default).1 = n := by
  constructor
  · exact Reads.eq
  · intro same
    rw [← same]
    exact reads_number word

/-- A text that must not be blank: its trimmed value, or its default. -/
theorem required_eq_ok_iff {vars : Variables} {name default s : String} :
    required vars name default = .ok s ↔
      (vars name = none ∧ default = s) ∨
      ∃ raw, vars name = some raw ∧ ¬ Text.Blank raw.toList ∧
        String.ofList (Text.trim raw.toList) = s := by
  unfold required
  cases vars name with
  | none => simp
  | some raw =>
    by_cases blank : Text.Blank raw.toList
    · simp [Text.trim_eq_nil_iff.2 blank, blank]
    · have inhabited : (Text.trim raw.toList).isEmpty = false := by
        simpa [Text.trim_eq_nil_iff] using blank
      simp [inhabited, blank]

/-- There is no first zero just if there is no zero. -/
theorem firstZero_eq_ok_iff (l : List (String × UInt64)) :
    firstZero l = .ok () ↔ ∀ pair ∈ l, pair.2 ≠ 0 := by
  induction l with
  | nil => simp [firstZero]
  | cons pair rest ih =>
    obtain ⟨name, n⟩ := pair
    by_cases zero : n = 0
    · simp [firstZero, zero]
    · simp [firstZero, zero, ih]

/-! ## 3. The feed -/

theorem isSocketUri_iff {cs : List Char} :
    isSocketUri (String.ofList cs) = true ↔ "ws://".toList <+: cs ∨ "wss://".toList <+: cs := by
  simp [isSocketUri, List.isPrefixOf_iff_prefix]

/-- An address is accepted just if it is left out or one of a web socket, which
is never blank. -/
theorem uri_iff {vars : Variables} :
    (∃ uri, required vars "WEBSOCKET_URI" "wss://telemetry.joystream.org/feed/" = .ok uri ∧
      isSocketUri uri = true) ↔
      ∀ raw, vars "WEBSOCKET_URI" = some raw →
        "ws://".toList <+: Text.trim raw.toList ∨ "wss://".toList <+: Text.trim raw.toList := by
  simp only [required_eq_ok_iff]
  cases set : vars "WEBSOCKET_URI" with
  | none =>
    have default : isSocketUri "wss://telemetry.joystream.org/feed/" = true := by decide
    simp [default]
  | some raw =>
    constructor
    · rintro ⟨uri, ⟨⟨⟩, -⟩ | ⟨_, ⟨⟩, -, rfl⟩, socket⟩ _ ⟨⟩
      exact isSocketUri_iff.1 socket
    · intro socket
      have accepted := isSocketUri_iff.2 (socket raw rfl)
      refine ⟨_, Or.inr ⟨raw, rfl, ?_, rfl⟩, accepted⟩
      intro blank
      rw [Text.trim_eq_nil_iff.2 blank] at accepted
      cases accepted

theorem chain_iff {vars : Variables} :
    (∃ chain, required vars "CHAIN_NAME" "Joystream" = .ok chain) ↔
      ∀ raw, vars "CHAIN_NAME" = some raw → ¬ Text.Blank raw.toList := by
  simp only [required_eq_ok_iff]
  cases set : vars "CHAIN_NAME" <;> simp

/-- There is an address and a chain just if both variables are acceptable. -/
theorem feedOf_isOk_iff {vars : Variables} :
    (∃ feed, feedOf vars = .ok feed) ↔
      (∀ raw, vars "WEBSOCKET_URI" = some raw →
        "ws://".toList <+: Text.trim raw.toList ∨ "wss://".toList <+: Text.trim raw.toList) ∧
      ∀ raw, vars "CHAIN_NAME" = some raw → ¬ Text.Blank raw.toList := by
  rw [← uri_iff, ← chain_iff]
  constructor
  · rintro ⟨feed, read⟩
    unfold feedOf at read
    obtain ⟨uri, given, read⟩ := bind_eq_ok.1 read
    split at read
    · next socket =>
      obtain ⟨chain, named, -⟩ := bind_eq_ok.1 read
      exact ⟨⟨uri, given, socket⟩, chain, named⟩
    · cases read
  · rintro ⟨⟨uri, given, socket⟩, chain, named⟩
    refine ⟨(uri, chain), ?_⟩
    unfold feedOf
    refine bind_eq_ok.2 ⟨uri, given, ?_⟩
    rw [if_pos socket]
    exact bind_eq_ok.2 ⟨chain, named, rfl⟩

/-! ## 4. The configuration -/

/-- The numbers that must not be zero. -/
def positives (vars : Variables) : List (String × UInt64) :=
  [("INTERVAL", (number vars "INTERVAL" (2 ^ 64) 5).1),
    ("PING_INTERVAL_MS", (number vars "PING_INTERVAL_MS" (2 ^ 64) 30000).1),
    ("NO_NEW_NODE_TIMEOUT_MS", (number vars "NO_NEW_NODE_TIMEOUT_MS" (2 ^ 64) 30000).1)]

/-- Variables are acceptable just if there is a feed and no number is zero. -/
theorem acceptable_iff {vars : Variables} :
    Acceptable vars ↔ (∃ feed, feedOf vars = .ok feed) ∧ firstZero (positives vars) = .ok () := by
  rw [feedOf_isOk_iff, firstZero_eq_ok_iff]
  simp only [positives, List.forall_mem_cons, List.not_mem_nil, false_implies, implies_true,
    and_true, ne_eq, ← reads_iff (Nat.le_refl (2 ^ 64))]
  constructor
  · intro acceptable
    exact ⟨⟨acceptable.uri, acceptable.chain⟩, acceptable.interval, acceptable.pings,
      acceptable.firstNode⟩
  · rintro ⟨⟨uri, chain⟩, interval, pings, firstNode⟩
    exact ⟨uri, chain, interval, pings, firstNode⟩

/-- What variables come to that say an interval of so many minutes. -/
inductive Outcome (vars : Variables) (minutes : Nat) : Except Fault Config → Prop where
  /-- There is an error that says why there is no configuration. -/
  | refused {cause : ConfigError} (unacceptable : ¬ Acceptable vars) :
    Outcome vars minutes (.error (.refused cause))
  /-- There is a configuration with just that interval. -/
  | kept {c : Config} (acceptable : Acceptable vars) (positive : 0 < minutes)
    (exact : c.snapshotInterval.toNat = 60 * minutes) : Outcome vars minutes (.ok c)
  /-- The seconds do not fit their word. -/
  | lost (acceptable : Acceptable vars) (large : 2 ^ 64 ≤ 60 * minutes) :
    Outcome vars minutes (.error (.overflow .multiply))

/-- Whatever the variables are, they say an interval, and they are refused, or
the configuration has it, or it is too long; and which it is depends on nothing
but whether they are acceptable and how long the interval is. -/
theorem load_outcome (vars : Variables) :
    ∃ minutes : UInt64, Reads vars "INTERVAL" (2 ^ 64) 5 minutes ∧
      Outcome vars minutes.toNat (load vars).2 := by
  refine ⟨_, reads_number (Nat.le_refl _), ?_⟩
  unfold load
  cases feed : feedOf vars with
  | error cause =>
    refine .refused ?_
    intro acceptable
    obtain ⟨given, read⟩ := (acceptable_iff.1 acceptable).1
    rw [feed] at read
    cases read
  | ok given =>
    cases zeros : firstZero (positives vars) with
    | error cause =>
      have unacceptable : ¬ Acceptable vars := by
        intro acceptable
        rw [(acceptable_iff.1 acceptable).2] at zeros
        cases zeros
      unfold positives at zeros
      simp only [zeros]
      exact .refused unacceptable
    | ok none =>
      have acceptable := acceptable_iff.2 ⟨⟨given, feed⟩, zeros⟩
      have minutes : (number vars "INTERVAL" (2 ^ 64) 5).1 ≠ 0 :=
        (firstZero_eq_ok_iff _).1 zeros _ List.mem_cons_self
      unfold positives at zeros
      simp only [zeros]
      generalize (number vars "INTERVAL" (2 ^ 64) 5).1 = interval at minutes ⊢
      cases product : Word.multiply interval 60 with
      | error cause =>
        obtain ⟨rfl, large⟩ := Word.multiply_eq_error product
        exact .lost acceptable (by simpa [Nat.mul_comm] using large)
      | ok seconds =>
        have positive : interval.toNat ≠ 0 := by simpa [← UInt64.toNat_inj] using minutes
        have exact : seconds.toNat = interval.toNat * 60 := Word.toNat_of_multiply product
        exact .kept acceptable (by omega) (by simp [exact, Nat.mul_comm])

/-- Only the interval is set, and it is the shortest that is too long. -/
def exampleEndless : Variables :=
  fun name => if name = "INTERVAL" then some "307445734561825861" else none

/-- Not every interval leads to a configuration or to an error that says why
there is none. -/
theorem interval_overflows :
    Acceptable exampleEndless ∧ (load exampleEndless).2 = .error (.overflow .multiply) ∧
      ¬ ∀ vars, (∃ cause, (load vars).2 = .error (.refused cause)) ∨
        ∃ minutes c, Reads vars "INTERVAL" (2 ^ 64) 5 minutes ∧ (load vars).2 = .ok c ∧
          c.snapshotInterval.toNat = 60 * minutes.toNat := by
  have overflows : (load exampleEndless).2 = .error (.overflow .multiply) := rfl
  have acceptable : Acceptable exampleEndless := acceptable_iff.2 ⟨⟨_, rfl⟩, rfl⟩
  refine ⟨acceptable, overflows, ?_⟩
  intro never
  rcases never exampleEndless with ⟨cause, refused⟩ | ⟨minutes, c, -, loaded, -⟩
  · rw [overflows] at refused
    cases refused
  · rw [overflows] at loaded
    cases loaded

end Config

end NodeWatch
