/-
NodeWatch.Proofs.System.Course — one job, on a clock.

A system moves many jobs and has no clock.  A course follows a single job, step
by step, and says when it makes each step.  Everything else is left open: what
has become of the tracker since the last step, whether the call that the step
has waited for is refused, and how long it has taken (`Meeting`).  A pause takes
as long as it says, and a step takes no time.

So what holds of a course whatever the job meets holds among all other jobs, and
with every pattern of failures.  The clock is the one that timelines have
(`Timeline.serve_due`).  What a job asks of the store can be read off its state
(`Job.request?`), and nothing else that it does changes the store
(`Course.store_of_run`).
-/
import NodeWatch.Proofs.Agreement
import NodeWatch.Timeline.Basic

namespace NodeWatch

/-! ## 1. Requests of jobs -/

/-- Reading a record changes nothing. -/
theorem Flushing.finding_tracker (t : Tracker) (refusal : Refusal) (now : Int64) (r : Reading)
    (rest : List Reading) (report : Report) :
    ((finding now r rest report).step t refusal).tracker = t := by
  simp only [step]
  split <;> rfl

namespace Job

/-- What the next step of a job asks of the store. -/
def request? : Job → Option Store.Request
  | .announcing _ (.creating _ node) => some (.create node.profile)
  | .announcing _ (.placing _ id location) => some (.setLocation id location)
  | .attempting (.placing task id) => some (.setLocation id task.location)
  | .locating (.placing task id) => some (.setLocation id task.location)
  | .flushing (.finding _ reading _ _) => some (.find reading.values.durableId)
  | .flushing (.appending _ entry _ _) => some (.append entry)
  | _ => none

/-- What is left of a store after a request, if there is one and it is not
refused. -/
def asked (store : Store) (refusal : Refusal) : Option Store.Request → Store
  | some request => if refusal = none then (store.respond request).2 else store
  | none => store

theorem setLocation_store (t : Tracker) (refusal : Refusal) (id : DurableId) (l : Location) :
    (match t.setLocation refusal id l with
      | .ok t => t.store
      | .error _ => t.store) = asked t.store refusal (some (.setLocation id l)) := by
  cases refusal with
  | some cause => rfl
  | none =>
    simp only [Tracker.setLocation, asked, Store.respond, if_true]
    cases t.store.setLocation id l <;> rfl

theorem attempt_store (t : Tracker) (refusal : Refusal) (l : Locating) :
    (l.attempt t refusal).tracker.store = asked t.store refusal (Job.attempting l).request? := by
  cases l with
  | looking task =>
    simp only [Locating.attempt]
    cases t.registry.durableId? task.feedId <;> rfl
  | placing task id =>
    rw [request?, ← setLocation_store, Locating.attempt]
    cases t.setLocation refusal id task.location <;> rfl

/-- A step does to the store what it asks of it, and no more. -/
theorem step_store (t : Tracker) (refusal : Refusal) (job : Job) :
    (job.step t refusal).tracker.store = asked t.store refusal job.request? := by
  cases job with
  | announcing told a =>
    cases a with
    | unbegun node => rfl
    | creating ticket node =>
      cases refusal with
      | some cause => rfl
      | none =>
        simp only [step, Announcing.step, Tracker.create, request?, asked, Store.respond, if_true]
        cases t.store.create node.profile with
        | error cause => rfl
        | ok result => cases result <;> rfl
    | placing node id location =>
      rw [request?, ← setLocation_store, step, Announcing.step]
      cases t.setLocation refusal id location <;> rfl
  | attempting l => exact attempt_store t refusal l
  | locating l =>
    have same : (Job.locating l).request? = (Job.attempting l).request? := by cases l <;> rfl
    rw [same, ← attempt_store, ← l.step_tracker]
    rfl
  | flushing f =>
    cases f with
    | unbegun now => rfl
    | finding now reading rest report =>
      simp only [step, Step.map, Flushing.finding_tracker, request?, asked, Store.respond, ite_self]
    | appending now entry rest report =>
      cases refusal with
      | some cause => rfl
      | none =>
        simp only [step, Step.map, Flushing.step, Tracker.append, request?, asked, Store.respond,
          if_true]
        cases t.store.append entry <;> rfl

end Job

/-! ## 2. Courses -/

/-- What a job meets at one of its steps. -/
structure Meeting where
  tracker : Tracker
  refusal : Refusal
  /-- How many milliseconds the call has taken, if the step has waited for one. -/
  took : Nat

/-- What a job meets, step by step. -/
abbrev Surroundings := Nat → Meeting

/-- What a job meets after so many steps. -/
def Surroundings.drop (s : Surroundings) (n : Nat) : Surroundings :=
  fun i => s (n + i)

@[simp] theorem Surroundings.drop_zero (s : Surroundings) : s.drop 0 = s := by
  funext i
  simp [drop]

theorem Surroundings.drop_drop (s : Surroundings) (m n : Nat) :
    (s.drop m).drop n = s.drop (m + n) := by
  funext i
  simp [drop, Nat.add_assoc]

/-- When a step is made that has needed something since `now`. -/
def Need.due (now took : Nat) : Need → Nat
  | .nothing => now
  | .call _ => now + took
  | .pause delay => now + delay
  | .instant deadline => max now deadline

/-- How the next call fares on a timeline, if that is what is needed. -/
def Timeline.answer (t : Timeline) : Need → Nat × Refusal
  | .call kind => t.conduct kind ((t.calls.get? kind).getD 0 + 1)
  | _ => (0, none)

/-- A timeline lets a task go on when its next step is due, and tells at once
what is told before that step. -/
theorem Timeline.serve_due (t : Timeline) (id : TaskId) (task : Task) :
    ∃ calls, t.serve id task =
      { t with calls, notices := t.notices ++ task.before }.after
        ((task.need t.tracker.policy).due t.now (t.answer (task.need t.tracker.policy)).1 - t.now)
        ⟨id, task, some (t.answer (task.need t.tracker.policy)).2⟩ := by
  unfold serve
  dsimp only
  cases task.need t.tracker.policy with
  | nothing => exact ⟨t.calls, by rw [Need.due, Nat.sub_self]; rfl⟩
  | call kind => exact ⟨_, by rw [Need.due, Nat.add_sub_cancel_left]; rfl⟩
  | pause delay => exact ⟨t.calls, by rw [Need.due, Nat.add_sub_cancel_left]; rfl⟩
  | instant deadline =>
    have passes : max t.now deadline - t.now = deadline - t.now := by omega
    exact ⟨t.calls, by rw [Need.due, passes]; rfl⟩

/-- A step that a job has made. -/
structure Visit where
  instant : Nat
  /-- Where the job stood before. -/
  job : Job
  /-- The tracker that the step has met, and the one that it has left. -/
  met : Tracker
  left : Tracker

/-- The steps that a job has made, and where it stands now. -/
structure Course where
  visits : List Visit
  now : Nat
  progress : Progress Job Job.Result

namespace Course

/-- The course with some steps before. -/
def after (visits : List Visit) (c : Course) : Course :=
  { c with visits := visits ++ c.visits }

/-- The course of a job from an instant on, with at most so many steps. -/
def run (policy : RetryPolicy) : Nat → Surroundings → Nat → Progress Job Job.Result → Course
  | _, _, now, .ended result => ⟨[], now, .ended result⟩
  | 0, _, now, .running job => ⟨[], now, .running job⟩
  | n + 1, s, now, .running job =>
    let instant := (job.need policy).due now (s 0).took
    let step := job.step (s 0).tracker (s 0).refusal
    (run policy n (s.drop 1) instant step.progress).after
      [⟨instant, job, (s 0).tracker, step.tracker⟩]

/-- What has been asked of the store. -/
def requests (c : Course) : List Store.Request :=
  c.visits.filterMap fun v => v.job.request?

variable {policy : RetryPolicy} {s : Surroundings} {now : Nat}

@[simp] theorem run_ended (n : Nat) (result : Job.Result) :
    run policy n s now (.ended result) = ⟨[], now, .ended result⟩ := by
  cases n <;> rfl

theorem run_succ (n : Nat) (job : Job) :
    run policy (n + 1) s now (.running job) =
      (run policy n (s.drop 1) ((job.need policy).due now (s 0).took)
          (job.step (s 0).tracker (s 0).refusal).progress).after
        [⟨(job.need policy).due now (s 0).took, job, (s 0).tracker,
          (job.step (s 0).tracker (s 0).refusal).tracker⟩] := rfl

@[simp] theorem after_nil (c : Course) : c.after [] = c := rfl

@[simp] theorem after_begun (visits : List Visit) (now : Nat)
    (progress : Progress Job Job.Result) :
    (⟨[], now, progress⟩ : Course).after visits = ⟨visits, now, progress⟩ := by
  simp [after]

@[simp] theorem after_after (a b : List Visit) (c : Course) :
    (c.after b).after a = c.after (a ++ b) := by
  simp [after]

@[simp] theorem progress_after (visits : List Visit) (c : Course) :
    (c.after visits).progress = c.progress := rfl

@[simp] theorem visits_after (visits : List Visit) (c : Course) :
    (c.after visits).visits = visits ++ c.visits := rfl

theorem requests_after (visits : List Visit) (c : Course) :
    (c.after visits).requests = visits.filterMap (fun v => v.job.request?) ++ c.requests := by
  simp [requests]

/-- Each step meets the tracker that is there for it, and leaves what it makes of
it. -/
theorem step_of_run {n : Nat} {progress : Progress Job Job.Result} {i : Nat} {v : Visit}
    (made : (run policy n s now progress).visits[i]? = some v) :
    v.met = (s i).tracker ∧ v.left = (v.job.step (s i).tracker (s i).refusal).tracker := by
  induction n generalizing s now progress i with
  | zero => cases progress <;> simp [run] at made
  | succ n ih =>
    cases progress with
    | ended result => simp at made
    | running job =>
      rw [run_succ, visits_after, List.singleton_append] at made
      cases i with
      | zero =>
        rw [List.getElem?_cons_zero] at made
        rw [← Option.some.inj made]
        exact ⟨rfl, rfl⟩
      | succ i =>
        rw [List.getElem?_cons_succ] at made
        have later := ih made
        rw [Surroundings.drop, Nat.add_comm] at later
        exact later

/-- Nothing but its requests changes the store. -/
theorem store_of_run {n : Nat} {progress : Progress Job Job.Result} {i : Nat} {v : Visit}
    (made : (run policy n s now progress).visits[i]? = some v) :
    v.left.store = Job.asked v.met.store (s i).refusal v.job.request? := by
  obtain ⟨met, left⟩ := step_of_run made
  rw [met, left]
  exact Job.step_store _ _ _

end Course

/-! ## 3. Undisturbed courses -/

/-- Between two steps nothing else changes what `read` finds. -/
def Course.Undisturbed {α : Type} (read : Tracker → α) (c : Course) : Prop :=
  c.visits.IsChain fun v w => read v.left = read w.met

/-- What steps leave alone stays as the first step has left it, if nothing else
goes on. -/
theorem constant_of_chain {α : Type} {read : Tracker → α} {v : Visit} {later : List Visit}
    (chain : (v :: later).IsChain fun v w => read v.left = read w.met)
    (kept : ∀ w ∈ later, read w.left = read w.met) :
    ∀ w ∈ later, read w.met = read v.left ∧ read w.left = read v.left := by
  induction later generalizing v with
  | nil => simp
  | cons next rest ih =>
    obtain ⟨here, chain⟩ := List.isChain_cons_cons.mp chain
    have next' : read next.left = read v.left := by
      rw [here]
      exact kept next List.mem_cons_self
    intro w mem
    obtain rfl | mem := List.mem_cons.mp mem
    · exact ⟨here.symm, next'⟩
    · rw [← next']
      exact ih chain (fun w mem => kept w (List.mem_cons_of_mem _ mem)) w mem

/-- What a job meets while nothing else goes on, whichever of its calls are
refused. -/
def Surroundings.alone (refusals : Nat → Refusal) (t : Tracker) :
    Progress Job Job.Result → Nat → Meeting
  | _, 0 => ⟨t, refusals 0, 0⟩
  | .ended _, i + 1 => ⟨t, refusals (i + 1), 0⟩
  | .running job, i + 1 =>
    let step := job.step t (refusals 0)
    alone (fun i => refusals (i + 1)) step.tracker step.progress i

theorem Surroundings.drop_alone (refusals : Nat → Refusal) (t : Tracker) (job : Job) :
    drop (alone refusals t (.running job)) 1 =
      alone (fun i => refusals (i + 1)) (job.step t (refusals 0)).tracker
        (job.step t (refusals 0)).progress := by
  funext i
  rw [drop, Nat.add_comm]
  rfl

theorem Surroundings.alone_zero (refusals : Nat → Refusal) (t : Tracker)
    (progress : Progress Job Job.Result) :
    alone refusals t progress 0 = ⟨t, refusals 0, 0⟩ := by
  cases progress <;> rfl

theorem Course.undisturbed_alone {α : Type} (read : Tracker → α) (policy : RetryPolicy) (n : Nat)
    (refusals : Nat → Refusal) (t : Tracker) (now : Nat) (progress : Progress Job Job.Result) :
    (run policy n (.alone refusals t progress) now progress).Undisturbed read := by
  induction n generalizing refusals t now progress with
  | zero => cases progress <;> exact .nil
  | succ n ih =>
    cases progress with
    | ended result =>
      rw [run_ended]
      exact .nil
    | running job =>
      rw [run_succ, Surroundings.drop_alone, Undisturbed, visits_after, List.singleton_append,
        Surroundings.alone_zero]
      have later := ih (fun i => refusals (i + 1)) (job.step t (refusals 0)).tracker
        ((job.need policy).due now 0) (job.step t (refusals 0)).progress
      rw [Undisturbed] at later
      generalize course : run policy n _ _ _ = c at later
      cases visits : c.visits with
      | nil => exact .singleton _
      | cons next rest =>
        rw [visits] at later
        refine .cons_cons ?_ later
        have first : c.visits[0]? = some next := by rw [visits, List.getElem?_cons_zero]
        rw [← course] at first
        rw [(step_of_run first).1, Surroundings.alone_zero]

end NodeWatch
