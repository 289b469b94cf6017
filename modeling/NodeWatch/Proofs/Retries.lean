/-
NodeWatch.Proofs.Retries — how a location finds its node, or is given up.

A location looks its node up, again after each pause, until the node is tracked
or the budget is spent.  The registry may change in any way between two lookups,
so nothing is said here of how it comes to know a node: only what each lookup
finds matters (`found`).

Main statement: whatever a location meets, its work ends.  Its lookups are one
delay apart, and one more than the postponements at the most; if none of them
finds the node, the store is asked for nothing and the location is abandoned
after all its delays; if one does, the first such lookup is the last one, and one
request for the store settles the outcome (`retries_end`).

The course of a location is written out in full: a row of lookups that find
nothing (`tries`), from which each goes on to the next as long as the budget lasts
(`run_tries`), and one or two steps more.
-/
import NodeWatch.Proofs.System.Course

namespace NodeWatch

/-! ## 1. Postponements -/

/-- A location that has been postponed so many times more. -/
def Postponed.later (p : Postponed) (k : Nat) : Postponed :=
  { p with postponed := p.postponed + k }

namespace Postponed

@[simp] theorem later_zero (p : Postponed) : p.later 0 = p := rfl

@[simp] theorem later_later (p : Postponed) (j k : Nat) : (p.later j).later k = p.later (j + k) := by
  simp [later, Nat.add_assoc]

theorem postpone_of_lt {p : Postponed} (left : p.postponed < p.maxAttempts) :
    p.postpone = some (p.later 1) := by
  rw [postpone, if_neg (by omega)]
  rfl

theorem postpone_of_le {p : Postponed} (spent : p.maxAttempts ≤ p.postponed) :
    p.postpone = none := by
  rw [postpone, if_pos spent]

end Postponed

/-! ## 2. Steps -/

namespace Locating

/-- What a step finds under a feed id. -/
def found (s : Surroundings) (f : FeedId) (i : Nat) : Option DurableId :=
  (s i).tracker.registry.durableId? f

variable {t : Tracker} {refusal : Refusal} {task : Postponed}

/-- A lookup that finds nothing leads to the next one. -/
theorem step_postponed (unknown : t.registry.durableId? task.feedId = none)
    (left : task.postponed < task.maxAttempts) :
    (Job.locating (.looking task)).step t refusal =
      { tracker := t
        progress := .running (.locating (.looking (task.later 1)))
        notices := [.putOff task.feedId t.policy.delay (task.later 1).remaining] } := by
  simp [Job.step, step, attempt, unknown, postpone, Locating.task, Postponed.postpone_of_lt left,
    Step.map]

/-- A lookup that finds nothing is the last one when the budget is spent. -/
theorem step_abandoned (unknown : t.registry.durableId? task.feedId = none)
    (spent : task.maxAttempts ≤ task.postponed) :
    (Job.locating (.looking task)).step t refusal =
      { tracker := t
        progress := .ended (.located (.abandoned task.postponed))
        notices := [.locationAbandoned task.feedId task.postponed] } := by
  simp [Job.step, step, attempt, unknown, postpone, Locating.task, Postponed.postpone_of_le spent,
    Step.map]

/-- A lookup that finds the node leads to its record. -/
theorem step_known {id : DurableId} (known : t.registry.durableId? task.feedId = some id) :
    (Job.locating (.looking task)).step t refusal =
      { tracker := t, progress := .running (.locating (.placing task id)) } := by
  simp [Job.step, step, attempt, known, Step.map]

/-- The outcome of setting a location. -/
def outcome (t : Tracker) (refusal : Refusal) (task : Postponed) (id : DurableId) :
    LocationOutcome :=
  match t.setLocation refusal id task.location with
  | .ok _ => .applied id task.postponed
  | .error _ => .failed

/-- The store is asked once, and its answer is the outcome. -/
theorem step_placing (t : Tracker) (refusal : Refusal) (task : Postponed) (id : DurableId) :
    ((Job.locating (.placing task id)).step t refusal).progress =
      .ended (.located (outcome t refusal task id)) := by
  simp only [Job.step, step, attempt, outcome, Step.map]
  cases t.setLocation refusal id task.location <;> rfl

/-! ## 3. Courses -/

/-- When a location looks its node up that has been on its way since `now`: only
the first lookup comes without a pause. -/
def lookupAt (policy : RetryPolicy) (now : Nat) (task : Postponed) : Nat :=
  if task.postponed = 0 then now else now + policy.delay

theorem due_looking (policy : RetryPolicy) (now took : Nat) (task : Postponed) :
    ((Job.locating (.looking task)).need policy).due now took = lookupAt policy now task := by
  simp only [Job.need, need, lookupAt]
  split <;> rfl

/-- The first lookups of a location, the first of them at an instant. -/
def tries (policy : RetryPolicy) (s : Surroundings) (instant : Nat) (task : Postponed) (k : Nat) :
    List Visit :=
  (List.range k).map fun i =>
    ⟨instant + i * policy.delay, .locating (.looking (task.later i)), (s i).tracker, (s i).tracker⟩

theorem tries_succ (policy : RetryPolicy) (s : Surroundings) (instant : Nat) (task : Postponed)
    (k : Nat) :
    tries policy s instant task (k + 1) =
      ⟨instant, .locating (.looking task), (s 0).tracker, (s 0).tracker⟩ ::
        tries policy (s.drop 1) (instant + policy.delay) (task.later 1) k := by
  simp only [tries, List.range_succ_eq_map, List.map_cons, List.map_map, Nat.zero_mul,
    Nat.add_zero, Postponed.later_zero, List.cons.injEq, true_and]
  refine List.map_congr_left fun i _ => ?_
  have later : instant + (i + 1) * policy.delay = instant + policy.delay + i * policy.delay := by
    rw [Nat.succ_mul]
    omega
  simp [Surroundings.drop, Nat.add_comm 1 i, later]

theorem tries_concat (policy : RetryPolicy) (s : Surroundings) (instant : Nat) (task : Postponed)
    (k : Nat) :
    tries policy s instant task (k + 1) = tries policy s instant task k ++
      [⟨instant + k * policy.delay, .locating (.looking (task.later k)), (s k).tracker,
        (s k).tracker⟩] := by
  simp [tries, List.range_succ]

variable {policy : RetryPolicy} {s : Surroundings}

/-- As long as there is a budget, lookups that find nothing lead to another one.
By induction on their number, from the first one on. -/
theorem run_tries (n k : Nat) {now : Nat} (budget : task.postponed + k ≤ task.maxAttempts)
    (unknown : ∀ i < k, found s task.feedId i = none) :
    ∃ now', lookupAt policy now' (task.later k) = lookupAt policy now task + k * policy.delay ∧
      Course.run policy (k + n) s now (.running (.locating (.looking task))) =
        (Course.run policy n (s.drop k) now' (.running (.locating (.looking (task.later k))))).after
          (tries policy s (lookupAt policy now task) task k) := by
  induction k generalizing task s now with
  | zero => exact ⟨now, by simp, by simp [tries]⟩
  | succ k ih =>
    have first := unknown 0 (Nat.succ_pos k)
    have left : task.postponed < task.maxAttempts := by omega
    have budget' : (task.later 1).postponed + k ≤ (task.later 1).maxAttempts := by
      simp only [Postponed.later]
      omega
    have unknown' : ∀ i < k, found (s.drop 1) (task.later 1).feedId i = none := by
      intro i less
      rw [found, Surroundings.drop, Nat.add_comm 1 i]
      exact unknown (i + 1) (by omega)
    obtain ⟨now', due, goesOn⟩ := @ih (task.later 1) (s.drop 1) (lookupAt policy now task)
      budget' unknown'
    have next : lookupAt policy (lookupAt policy now task) (task.later 1) =
        lookupAt policy now task + policy.delay := by
      simp [lookupAt, Postponed.later]
    rw [next] at due goesOn
    rw [Postponed.later_later, Nat.add_comm 1 k] at due goesOn
    refine ⟨now', ?_, ?_⟩
    · rw [due, Nat.succ_mul]
      omega
    · have steps : k + 1 + n = k + n + 1 := by omega
      rw [steps, Course.run_succ, due_looking, step_postponed first left, goesOn, tries_succ,
        Course.after_after, Surroundings.drop_drop, Nat.add_comm 1 k]
      rfl

/-- A location that is never found is abandoned with its last lookup. -/
theorem run_abandoned {now k : Nat} (budget : task.postponed + k = task.maxAttempts)
    (unknown : ∀ i ≤ k, found s task.feedId i = none) :
    Course.run policy (k + 2) s now (.running (.locating (.looking task))) =
      ⟨tries policy s (lookupAt policy now task) task (k + 1),
        lookupAt policy now task + k * policy.delay,
        .ended (.located (.abandoned task.maxAttempts))⟩ := by
  obtain ⟨now', due, goesOn⟩ := run_tries 2 k (Nat.le_of_eq budget)
    fun i less => unknown i (Nat.le_of_lt less)
  have last : ((s.drop k) 0).tracker.registry.durableId? (task.later k).feedId = none :=
    unknown k (Nat.le_refl k)
  have spent : (task.later k).maxAttempts ≤ (task.later k).postponed := Nat.le_of_eq budget.symm
  rw [goesOn, Course.run_succ, due_looking, due, step_abandoned last spent, Course.run_ended,
    Course.after_after, Course.after_begun, tries_concat, ← budget]
  rfl

/-- A location that is found goes to the store, and the answer ends its work. -/
theorem run_placed {now k n : Nat} {id : DurableId}
    (budget : task.postponed + k ≤ task.maxAttempts)
    (unknown : ∀ i < k, found s task.feedId i = none) (known : found s task.feedId k = some id) :
    Course.run policy (k + (n + 2)) s now (.running (.locating (.looking task))) =
      ⟨tries policy s (lookupAt policy now task) task (k + 1) ++
          [⟨lookupAt policy now task + k * policy.delay + (s (k + 1)).took,
            .locating (.placing (task.later k) id), (s (k + 1)).tracker,
            ((Job.locating (.placing (task.later k) id)).step (s (k + 1)).tracker
              (s (k + 1)).refusal).tracker⟩],
        lookupAt policy now task + k * policy.delay + (s (k + 1)).took,
        .ended (.located (outcome (s (k + 1)).tracker (s (k + 1)).refusal (task.later k) id))⟩ := by
  obtain ⟨now', due, goesOn⟩ := run_tries (n + 2) k budget unknown
  have here : ((s.drop k) 0).tracker.registry.durableId? (task.later k).feedId = some id := known
  rw [goesOn, Course.run_succ, due_looking, due, step_known here, Course.run_succ, step_placing,
    Course.run_ended, Course.after_after, Course.after_after, Course.after_begun, tries_concat]
  rfl

end Locating

/-! ## 4. The end of a location -/

/-- When a step has looked a location up. -/
def Visit.lookup? (v : Visit) : Option Nat :=
  match v.job with
  | .locating (.looking _) => some v.instant
  | _ => none

/-- When a location was looked up. -/
def Course.lookups (c : Course) : List Nat :=
  c.visits.filterMap Visit.lookup?

namespace Locating

/-- How the work on a location ends, of which `task` is what it began with: it is
abandoned with its last lookup, or the first lookup that finds its node leads to
the store. -/
inductive Ends (policy : RetryPolicy) (s : Surroundings) (start : Nat) (task : Postponed)
    (c : Course) : Prop where
  | abandoned (unknown : ∀ i ≤ task.maxAttempts, found s task.feedId i = none)
    (lookups : c.lookups = (List.range (task.maxAttempts + 1)).map (start + · * policy.delay))
    (requests : c.requests = [])
    (outcome : c.progress = .ended (.located (.abandoned task.maxAttempts)))
    (now : c.now = start + task.maxAttempts * policy.delay)
  | placed (k : Nat) (id : DurableId) (budget : k ≤ task.maxAttempts)
    (unknown : ∀ i < k, found s task.feedId i = none) (known : found s task.feedId k = some id)
    (lookups : c.lookups = (List.range (k + 1)).map (start + · * policy.delay))
    (requests : c.requests = [.setLocation id task.location])
    (outcome : c.progress = .ended (.located
      (match (s (k + 1)).tracker.setLocation (s (k + 1)).refusal id task.location with
        | .ok _ => .applied id k
        | .error _ => .failed)))

/-- A step of the work on a location, of which `task` is what it began with. -/
structure Within (task : Postponed) (v : Visit) : Prop where
  /-- Without a request, nothing is changed. -/
  quiet : v.job.request? = none → v.left = v.met
  /-- The location stays the same, within its budget. -/
  kept : ∃ l, v.job = .locating l ∧ l.task.feedId = task.feedId ∧
    l.task.location = task.location ∧ l.task.postponed + l.task.remaining = task.maxAttempts

variable {policy : RetryPolicy} {s : Surroundings} {task : Postponed} {instant : Nat}

theorem lookups_tries (k : Nat) :
    (tries policy s instant task k).filterMap Visit.lookup? =
      (List.range k).map (instant + · * policy.delay) := by
  rw [tries, List.filterMap_map, ← List.filterMap_eq_map]
  rfl

theorem requests_tries (k : Nat) :
    (tries policy s instant task k).filterMap (fun v => v.job.request?) = [] := by
  simp [tries, Job.request?]

theorem postponed_add_remaining {k : Nat} (fresh : task.postponed = 0)
    (budget : k ≤ task.maxAttempts) :
    (task.later k).postponed + (task.later k).remaining = task.maxAttempts := by
  simp only [Postponed.later, Postponed.remaining]
  omega

theorem within_tries {k : Nat} (fresh : task.postponed = 0) (budget : k ≤ task.maxAttempts) :
    ∀ v ∈ tries policy s instant task (k + 1), Within task v := by
  intro v mem
  obtain ⟨i, less, rfl⟩ := List.mem_map.mp mem
  have spent : i ≤ task.maxAttempts := by
    have := List.mem_range.mp less
    omega
  exact ⟨fun _ => rfl, _, rfl, rfl, rfl, postponed_add_remaining fresh spent⟩

theorem within_placing {k : Nat} (fresh : task.postponed = 0) (budget : k ≤ task.maxAttempts)
    (id : DurableId) (met left : Tracker) :
    Within task ⟨instant, .locating (.placing (task.later k) id), met, left⟩ :=
  ⟨nofun, _, rfl, rfl, rfl, postponed_add_remaining fresh budget⟩

/-- The node is not found in time, or there is a first lookup that finds it. -/
theorem exists_first_found (s : Surroundings) (f : FeedId) (n : Nat) :
    (∀ i ≤ n, found s f i = none) ∨
      ∃ k ≤ n, ∃ id, (∀ i < k, found s f i = none) ∧ found s f k = some id := by
  induction n with
  | zero =>
    cases first : found s f 0 with
    | none => exact .inl fun i least => by rwa [Nat.le_zero.mp least]
    | some id => exact .inr ⟨0, Nat.le_refl 0, id, nofun, first⟩
  | succ n ih =>
    obtain unknown | ⟨k, least, id, unknown, known⟩ := ih
    · cases last : found s f (n + 1) with
      | none =>
        refine .inl fun i least => ?_
        obtain less | rfl := Nat.lt_or_eq_of_le least
        · exact unknown i (Nat.le_of_lt_succ less)
        · exact last
      | some id =>
        exact .inr ⟨n + 1, Nat.le_refl _, id, fun i less => unknown i (Nat.le_of_lt_succ less), last⟩
    · exact .inr ⟨k, Nat.le_succ_of_le least, id, unknown, known⟩

/-- Whatever it meets, the work on a location ends, after lookups that are one
delay apart and at most one more than its postponements; it is postponed within
its budget, and stays the same location of the same feed id. -/
theorem retries_end (policy made : RetryPolicy) (f : FeedId) (location : Location)
    (s : Surroundings) (start : Nat) :
    let task := Postponed.new f location made
    let c := Course.run policy (made.maxAttempts + 2) s start
      (.running (.locating (.looking task)))
    Ends policy s start task c ∧ ∀ v ∈ c.visits, Within task v := by
  intro task c
  have fresh : task.postponed = 0 := rfl
  obtain unknown | ⟨k, least, id, unknown, known⟩ := exists_first_found s f made.maxAttempts
  · have spent : task.postponed + made.maxAttempts = task.maxAttempts := Nat.zero_add _
    have course : c = _ := run_abandoned spent unknown
    rw [course]
    exact ⟨.abandoned unknown (lookups_tries _) (requests_tries _) rfl rfl,
      within_tries fresh (Nat.le_refl _)⟩
  · have spent : task.postponed + k ≤ task.maxAttempts := by
      rw [fresh, Nat.zero_add]
      exact least
    obtain ⟨n, rest⟩ := Nat.exists_eq_add_of_le least
    have steps : made.maxAttempts + 2 = k + (n + 2) := by omega
    have course : c = _ := (congrArg (Course.run policy · s start _) steps).trans
      (run_placed spent unknown known)
    rw [course]
    refine ⟨.placed k id least unknown known ?_ ?_ ?_, ?_⟩
    · rw [Course.lookups, List.filterMap_append, lookups_tries, List.filterMap_cons_none rfl]
      simp [lookupAt, fresh]
    · rw [Course.requests, List.filterMap_append, requests_tries]
      rfl
    · simp [outcome, Postponed.later, fresh]
    · intro v mem
      obtain mem | mem := List.mem_append.mp mem
      · exact within_tries fresh least v mem
      · rw [List.mem_singleton.mp mem]
        exact within_placing fresh least id _ _

/-- A node that is never tracked, and at most two postponements. -/
example : (Course.run ⟨1000, 2⟩ 4 (fun _ => ⟨.ofStore (.memory .empty) .default, none, 0⟩) 500
    (.running (.locating (.looking (.new 7 ⟨.ofNat 0, .ofNat 0, "Oslo"⟩ ⟨1000, 2⟩))))).lookups =
      [500, 1500, 2500] := rfl

end Locating

end NodeWatch
