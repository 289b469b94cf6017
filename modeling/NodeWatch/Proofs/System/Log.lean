/-
NodeWatch.Proofs.System.Log — the log of one job.

The log of a job is what the trace tells of it.  Only two moves touch the
log of a job or the job itself: the one that begins it, and its own steps.
So a property of the log and of what is left of the job is an invariant of
every run as soon as it holds before the job is begun, when it is begun,
and after each of its own steps (`run_log`), however the steps of other
jobs come in between.
-/
import NodeWatch.Proofs.System.Telling

namespace NodeWatch

/-- The part of a trace that belongs to a job. -/
def logOf (j : JobId) (trace : List Event) : List Event :=
  trace.filter fun e => decide (e.job? = some j)

@[simp] theorem logOf_nil (j : JobId) : logOf j [] = [] := rfl

@[simp] theorem logOf_append (j : JobId) (a b : List Event) :
    logOf j (a ++ b) = logOf j a ++ logOf j b :=
  List.filter_append a b

theorem mem_logOf {j : JobId} {trace : List Event} {e : Event} :
    e ∈ logOf j trace ↔ e ∈ trace ∧ e.job? = some j := by
  simp [logOf]

theorem mem_of_mem_logOf {j : JobId} {trace : List Event} {e : Event} (h : e ∈ logOf j trace) :
    e ∈ trace :=
  (mem_logOf.1 h).1

theorem logOf_eq_self {j : JobId} {events : List Event} (h : ∀ e ∈ events, e.job? = some j) :
    logOf j events = events :=
  List.filter_eq_self.2 fun e he => decide_eq_true (h e he)

theorem logOf_eq_nil {j : JobId} {events : List Event} (h : ∀ e ∈ events, e.job? ≠ some j) :
    logOf j events = [] :=
  List.filter_eq_nil_iff.2 fun e he => by simpa using h e he

/-- A place in a trace is a place in the log of its job. -/
theorem logOf_split {j : JobId} {trace a b : List Event} {e : Event} (place : trace = a ++ e :: b)
    (own : e.job? = some j) : logOf j trace = logOf j a ++ e :: logOf j b := by
  rw [place, logOf_append]
  simp [logOf, own]

/-- What every job tells of once at most, no two events tell of the same
job. -/
theorem nodup_of_logs {g : Event → Option JobId} {trace : List Event}
    (own : ∀ {e j}, g e = some j → e.job? = some j)
    (once : ∀ j, ((logOf j trace).filterMap g).length ≤ 1) : (trace.filterMap g).Nodup := by
  have count : ∀ j, (trace.filterMap g).count j = ((logOf j trace).filterMap g).length := by
    intro j
    clear once
    induction trace with
    | nil => rfl
    | cons e rest ih =>
      cases given : g e with
      | none =>
        rw [List.filterMap_cons_none given, ih]
        by_cases mine : e.job? = some j <;> simp [logOf, mine, given]
      | some k =>
        rw [List.filterMap_cons_some given, List.count_cons, ih]
        by_cases mine : k = j
        · subst mine
          simp [logOf, own given, given]
        · simp [logOf, own given, mine]
  rw [List.nodup_iff_count]
  intro j
  rw [count]
  exact once j

/-! ## 1. What a move does to the jobs -/

/-- The job that a message begins. -/
def Message.job? (t : Tracker) : Message → Option Job
  | .addedNode node => some (.announcing true (.creating (t.registry.issue node.feedId).1 node))
  | .locatedNode f location => some (.locating (.looking (.new f location t.policy)))
  | _ => none

/-- The job that a move begins. -/
def Move.job? (t : Tracker) : Move → Option Job
  | .message _ m => m.job? t
  | .call c => c.job? t.policy
  | .step _ _ => none

/-- What a move tells that is not a step, if the next job has the name
`j`. -/
def Move.events (j : JobId) (r : Registry) : Move → List Event
  | .message _ m => m.events j r
  | .call c => c.events j r
  | .step _ _ => []

theorem Message.dispatch_jobs (now : Nat) (t : Tracker) (session : Session) (m : Message) :
    (Reaction.dispatch now { tracker := t, session } m).jobs = (m.job? t).toList := by
  cases m with
  | addedNode node => exact Reaction.announce_jobs { tracker := t, session } node
  | pong label => exact Reaction.pong_jobs now { tracker := t, session } label
  | _ => rfl

namespace Job

/-- The work of a job tells of that job, and of its kind of work. -/
theorem of_mem_story {j : JobId} {t : Tracker} {refusal : Refusal} {job : Job} {e : Event}
    (h : e ∈ job.story j t refusal) :
    e.job? = some j ∧ (e.work = job.work ∨ e.work = .placing ∧ job.work ≠ .flushing) := by
  cases job with
  | announcing _ a =>
    cases a with
    | unbegun node => cases List.mem_singleton.1 h; exact ⟨rfl, Or.inl rfl⟩
    | placing node id location =>
      cases List.mem_singleton.1 h
      exact ⟨rfl, Or.inr ⟨rfl, by simp [work]⟩⟩
    | creating ticket node =>
      simp only [story, Announcing.events] at h
      split at h
      · cases List.mem_singleton.1 h; exact ⟨rfl, Or.inl rfl⟩
      · cases List.mem_singleton.1 h; exact ⟨rfl, Or.inl rfl⟩
      · split at h <;> cases List.mem_singleton.1 h <;> exact ⟨rfl, Or.inl rfl⟩
  | attempting l =>
    cases l with
    | looking task => cases List.mem_singleton.1 h; exact ⟨rfl, Or.inl rfl⟩
    | placing task id =>
      cases List.mem_singleton.1 h
      exact ⟨rfl, Or.inr ⟨rfl, by simp [work]⟩⟩
  | locating l =>
    cases l with
    | looking task => cases List.mem_singleton.1 h; exact ⟨rfl, Or.inl rfl⟩
    | placing task id =>
      cases List.mem_singleton.1 h
      exact ⟨rfl, Or.inr ⟨rfl, by simp [work]⟩⟩
  | flushing f =>
    cases f with
    | unbegun now => cases List.mem_singleton.1 h; exact ⟨rfl, Or.inl rfl⟩
    | finding now reading rest report => cases h
    | appending now entry rest report => cases List.mem_singleton.1 h; exact ⟨rfl, Or.inl rfl⟩

theorem mem_ending {j : JobId} {progress : Progress Job Result} {e : Event}
    (h : e ∈ ending j progress) : ∃ result, e = .ended j result ∧ progress = .ended result := by
  cases progress with
  | running job => cases h
  | ended result => exact ⟨result, List.mem_singleton.1 h, rfl⟩

theorem of_mem_events {j : JobId} {t : Tracker} {refusal : Refusal} {job : Job} {e : Event}
    (h : e ∈ job.events j t refusal) :
    e.job? = some j ∧ (e.work = job.work ∨ e.work = .placing ∧ job.work ≠ .flushing ∨
      e.work = .ending) := by
  rcases List.mem_append.1 h with told | ended
  · obtain ⟨own, work⟩ := of_mem_story told
    exact ⟨own, work.imp_right Or.inl⟩
  · obtain ⟨result, rfl, -⟩ := mem_ending ended
    exact ⟨rfl, Or.inr (Or.inr rfl)⟩

/-- A job goes on with its kind of work. -/
theorem work_rest {t : Tracker} {refusal : Refusal} {job left : Job}
    (h : rest (job.step t refusal).progress = some left) : left.work = job.work := by
  cases job with
  | announcing told a =>
    simp only [step, Step.map] at h
    cases goesOn : (a.step t refusal).progress <;> simp only [goesOn, rest] at h <;> cases h
    rfl
  | attempting l =>
    simp only [step, Step.map] at h
    cases goesOn : (l.attempt t refusal).progress <;> simp only [goesOn, rest] at h <;> cases h
    rfl
  | locating l =>
    simp only [step, Step.map] at h
    cases goesOn : (l.step t refusal).progress <;> simp only [goesOn, rest] at h <;> cases h
    rfl
  | flushing f =>
    simp only [step, Step.map] at h
    cases goesOn : (f.step t refusal).progress <;> simp only [goesOn, rest] at h <;> cases h
    rfl

end Job

/-- A move that begins a job tells only of that job, and one that begins
none and is no step tells of no job. -/
theorem Move.job?_of_mem_events {j : JobId} {t : Tracker} {m : Move} {e : Event}
    (h : e ∈ m.events j t.registry) : e.job? = (m.job? t).map fun _ => j := by
  cases m with
  | message now m =>
    cases m with
    | addedNode node => cases List.mem_singleton.1 h; rfl
    | removedNode f => cases List.mem_singleton.1 h; rfl
    | locatedNode f location => cases List.mem_singleton.1 h; rfl
    | importedBlock f b => cases List.mem_singleton.1 h; rfl
    | nodeStats f g => cases List.mem_singleton.1 h; rfl
    | _ => cases h
  | call c =>
    cases c with
    | complete ticket node => cases h
    | announce node => cases h
    | flush now => cases h
    | _ => cases List.mem_singleton.1 h; rfl
  | step k refusal => cases h

/-- What a move tells of the job that it begins is of its kind of work. -/
theorem Move.work_of_mem_events {j : JobId} {t : Tracker} {m : Move} {job : Job} {e : Event}
    (begins : m.job? t = some job) (h : e ∈ m.events j t.registry) : e.work = job.work := by
  cases m with
  | message now m =>
    cases m with
    | addedNode node => cases begins; cases List.mem_singleton.1 h; rfl
    | locatedNode f location => cases begins; cases List.mem_singleton.1 h; rfl
    | _ => cases begins
  | call c =>
    cases c with
    | attempt f location => cases begins; cases List.mem_singleton.1 h; rfl
    | locate f location => cases begins; cases List.mem_singleton.1 h; rfl
    | complete ticket node => cases h
    | announce node => cases h
    | flush now => cases h
    | _ => cases begins
  | step k refusal => cases h

namespace System

/-- What a move does to the jobs: it leaves them alone, begins one under a
new name, or takes one of them on by a step. -/
theorem act_jobs (s : System) (m : Move) :
    (m.job? s.tracker = none ∧ (s.act m).1.jobs = s.jobs ∧ (s.act m).1.begun = s.begun ∧
      ∀ e ∈ (s.act m).2, e.job? = none) ∨
    (∃ job, m.job? s.tracker = some job ∧ (s.act m).1.jobs = s.jobs.insert s.begun job ∧
      (s.act m).1.begun = s.begun + 1 ∧ (s.act m).2 = m.events s.begun s.tracker.registry) ∨
    (∃ j refusal job, m = .step j refusal ∧ s.jobs.get? j = some job ∧
      (s.act m).1.jobs = proceed s.jobs j (Job.rest (job.step s.tracker refusal).progress) ∧
      (s.act m).1.begun = s.begun ∧ (s.act m).2 = job.events j s.tracker refusal) := by
  cases m with
  | message now m =>
    cases begins : m.job? s.tracker with
    | none =>
      have silent := fun e => Move.job?_of_mem_events (j := s.begun) (t := s.tracker)
        (m := .message now m) (e := e)
      simp only [Move.job?, begins, Option.map_none] at silent
      refine Or.inl ⟨begins, ?_, ?_, silent⟩ <;>
        simp [act, Message.dispatch_jobs, begins]
    | some job =>
      refine Or.inr (Or.inl ⟨job, begins, ?_, ?_, rfl⟩) <;>
        simp [act, Message.dispatch_jobs, begins, begin]
  | call c =>
    cases begins : c.job? s.tracker.policy with
    | none =>
      have silent := fun e => Move.job?_of_mem_events (j := s.begun) (t := s.tracker)
        (m := .call c) (e := e)
      simp only [Move.job?, begins, Option.map_none] at silent
      refine Or.inl ⟨begins, ?_, ?_, silent⟩ <;> simp [act, begins]
    | some job =>
      refine Or.inr (Or.inl ⟨job, begins, ?_, ?_, rfl⟩) <;> simp [act, begins, begin]
  | step j refusal =>
    cases found : s.jobs.get? j with
    | none => exact Or.inl ⟨rfl, by simp [act, found]⟩
    | some job => exact Or.inr (Or.inr ⟨j, refusal, job, rfl, found, by simp [act, found]⟩)

theorem get?_proceed (jobs : Table JobId Job) (j k : JobId) (left : Option Job) :
    (proceed jobs j left).get? k = if j = k then left else jobs.get? k := by
  cases left with
  | none => exact jobs.get?_erase j k
  | some job => exact jobs.get?_insert j k job

end System

/-! ## 2. Names -/

namespace History

/-- No job has a name that has not been given yet: none is told of, and
none is under way. -/
structure Named (h : History) : Prop where
  told : ∀ e ∈ h.trace, ∀ j, e.job? = some j → j < h.system.begun
  underway : ∀ j, h.system.begun ≤ j → h.job? j = none

theorem Named.logOf_eq_nil {h : History} (n : h.Named) {j : JobId} (fresh : h.system.begun ≤ j) :
    logOf j h.trace = [] :=
  NodeWatch.logOf_eq_nil fun e he hj => absurd (n.told e he j hj) (Nat.not_lt.2 fresh)

theorem Named.lt_of_job? {h : History} (n : h.Named) {j : JobId} {job : Job}
    (underway : h.job? j = some job) : j < h.system.begun := by
  rcases Nat.lt_or_ge j h.system.begun with lt | ge
  · exact lt
  · rw [n.underway j ge] at underway
    cases underway

theorem Named.extend {h : History} (n : h.Named) (m : Move) : (h.extend m).Named := by
  rcases h.system.act_jobs m with ⟨_, jobs, begun, silent⟩ | ⟨job, begins, jobs, begun, events⟩ |
    ⟨k, refusal, job, _, found, jobs, begun, events⟩
  · constructor
    · intro e he j hj
      rw [History.extend, begun]
      rcases List.mem_append.1 he with old | new
      · exact n.told e old j hj
      · rw [silent e new] at hj
        cases hj
    · intro j hj
      rw [History.extend, begun] at hj
      rw [job?, History.extend, jobs]
      exact n.underway j hj
  · constructor
    · intro e he j hj
      rw [History.extend, begun]
      rcases List.mem_append.1 he with old | new
      · exact Nat.lt_succ_of_lt (n.told e old j hj)
      · rw [events] at new
        rw [Move.job?_of_mem_events new, begins] at hj
        cases hj
        exact Nat.lt_succ_self _
    · intro j hj
      have later : h.system.begun + 1 ≤ j := begun ▸ hj
      have new : h.system.begun ≠ j := Nat.ne_of_lt later
      rw [job?, History.extend, jobs, Table.get?_insert, if_neg new]
      exact n.underway j (Nat.le_of_succ_le later)
  · have lt := n.lt_of_job? found
    constructor
    · intro e he j hj
      rw [History.extend, begun]
      rcases List.mem_append.1 he with old | new
      · exact n.told e old j hj
      · rw [events] at new
        rw [(Job.of_mem_events new).1] at hj
        cases hj
        exact lt
    · intro j hj
      have later : h.system.begun ≤ j := begun ▸ hj
      have other : k ≠ j := Nat.ne_of_lt (Nat.lt_of_lt_of_le lt later)
      rw [job?, History.extend, jobs, System.get?_proceed, if_neg other]
      exact n.underway j later

theorem run_named (store : Store) (policy : RetryPolicy) (moves : List Move) :
    (run store policy moves).Named := by
  have start : (start store policy).Named := by
    refine ⟨?_, fun _ _ => rfl⟩
    intro e he
    cases he
  exact run_invariant start (fun h m n => n.extend m) moves

/-! ## 3. Invariants of logs -/

/-- A property of the log of a job and of what is left of the job.  It has
to hold before the job is begun, when it is begun, and after each of its
steps. -/
structure Logs (allowed : Move → Prop) (P : JobId → List Event → Option Job → Prop) : Prop where
  idle : ∀ j, P j [] none
  begins : ∀ j t m job, allowed m → m.job? t = some job → P j (m.events j t.registry) (some job)
  steps : ∀ j t refusal job log, P j log (some job) →
    P j (log ++ job.events j t refusal) (Job.rest (job.step t refusal).progress)

/-- Such a property holds of every job at the end of every run. -/
theorem run_log {allowed : Move → Prop} {P : JobId → List Event → Option Job → Prop}
    (logs : Logs allowed P) (store : Store) (policy : RetryPolicy) {moves : List Move}
    (feed : ∀ m ∈ moves, allowed m) (j : JobId) :
    P j (logOf j (run store policy moves).trace) ((run store policy moves).job? j) := by
  suffices all : (run store policy moves).Named ∧ ∀ j,
      P j (logOf j (run store policy moves).trace) ((run store policy moves).job? j) from all.2 j
  refine run_induction (P := fun h => h.Named ∧ ∀ j, P j (logOf j h.trace) (h.job? j))
    ⟨run_named store policy [], logs.idle⟩ ?_ feed
  rintro h m ok ⟨n, kept⟩
  refine ⟨n.extend m, fun j => ?_⟩
  simp only [extend, job?, logOf_append]
  rcases h.system.act_jobs m with ⟨_, jobs, _, silent⟩ | ⟨job, begins, jobs, _, events⟩ |
    ⟨k, refusal, job, _, found, jobs, _, events⟩
  · -- The move begins no job and is no step: it tells of none.
    have none : logOf j (h.system.act m).2 = [] := logOf_eq_nil fun e he => by
      rw [silent e he]
      simp
    rw [none, List.append_nil, jobs]
    exact kept j
  · -- The move begins a job under a new name.
    have told : ∀ e ∈ (h.system.act m).2, e.job? = some h.system.begun := fun e he => by
      rw [events] at he
      rw [Move.job?_of_mem_events he, begins, Option.map_some]
    rw [jobs, Table.get?_insert]
    by_cases new : h.system.begun = j
    · subst new
      rw [n.logOf_eq_nil (Nat.le_refl _), logOf_eq_self told, if_pos rfl, List.nil_append, events]
      exact logs.begins _ h.system.tracker m job ok begins
    · have others : logOf j (h.system.act m).2 = [] := logOf_eq_nil fun e he => by
        rw [told e he]
        simpa using new
      rw [if_neg new, others, List.append_nil]
      exact kept j
  · -- The move is a step of the job `k`.
    have told : ∀ e ∈ (h.system.act m).2, e.job? = some k := fun e he => by
      rw [events] at he
      exact (Job.of_mem_events he).1
    rw [jobs, System.get?_proceed]
    by_cases own : k = j
    · subst own
      have before := kept k
      rw [job?, found] at before
      rw [logOf_eq_self told, if_pos rfl, events]
      exact logs.steps k h.system.tracker refusal job _ before
    · have others : logOf j (h.system.act m).2 = [] := logOf_eq_nil fun e he => by
        rw [told e he]
        simpa using own
      rw [if_neg own, others, List.append_nil]
      exact kept j

/-! ## 4. Ends -/

/-- A step that tells of an end leaves nothing of its job. -/
theorem rest_of_ended {j k : JobId} {t : Tracker} {refusal : Refusal} {job : Job}
    {result : Job.Result} (h : .ended k result ∈ job.events j t refusal) :
    Job.rest (job.step t refusal).progress = none := by
  rcases List.mem_append.1 h with told | ended
  · obtain ⟨-, work | ⟨work, -⟩⟩ := Job.of_mem_story told
    · cases job <;> cases work
    · cases work
  · obtain ⟨result', -, stopped⟩ := Job.mem_ending ended
    rw [stopped, Job.rest]

/-- A job whose end has been told is over. -/
theorem job?_of_ended {store : Store} {policy : RetryPolicy} {moves : List Move} {j : JobId}
    {result : Job.Result} (h : .ended j result ∈ (run store policy moves).trace) :
    (run store policy moves).job? j = none := by
  have logs : Logs (fun _ => True)
      fun j log left => (∃ result, .ended j result ∈ log) → left = none := by
    constructor
    · exact fun _ _ => rfl
    · rintro j t m job - begins ⟨result, told⟩
      have work := Move.work_of_mem_events begins told
      cases job <;> cases work
    · rintro j t refusal job log before ⟨result, told⟩
      rcases List.mem_append.1 told with old | new
      · cases before ⟨result, old⟩
      · exact rest_of_ended new
  exact run_log logs store policy (fun _ _ => trivial) j ⟨result, mem_logOf.2 ⟨h, rfl⟩⟩

end History

/-! ## 5. One job among others -/

/-- Whether a move is a step of a job. -/
def Move.isStepOf (j : JobId) : Move → Bool
  | .step k _ => decide (k = j)
  | _ => false

theorem Move.eq_step {j : JobId} {m : Move} (h : m.isStepOf j = true) :
    ∃ refusal, m = .step j refusal := by
  cases m with
  | step k refusal =>
    obtain rfl : k = j := by simpa [isStepOf] using h
    exact ⟨refusal, rfl⟩
  | _ => cases h

theorem Move.ne_step {j : JobId} {m : Move} (h : m.isStepOf j = false) (refusal : Refusal) :
    m ≠ .step j refusal := by
  rintro rfl
  simp [isStepOf] at h

namespace History

variable {j : JobId} {h : History}

/-- What a move that is no step of a job leaves of that job. -/
theorem extend_other (named : j < h.system.begun) {m : Move} (other : m.isStepOf j = false) :
    (h.extend m).job? j = h.job? j ∧ logOf j (h.extend m).trace = logOf j h.trace ∧
      j < (h.extend m).system.begun := by
  have quiet : (∀ e ∈ (h.system.act m).2, e.job? ≠ some j) →
      logOf j (h.extend m).trace = logOf j h.trace := by
    intro silent
    rw [extend, logOf_append, logOf_eq_nil silent, List.append_nil]
  rw [job?, job?, extend]
  rcases h.system.act_jobs m with ⟨_, jobs, begun, silent⟩ | ⟨job, begins, jobs, begun, events⟩ |
    ⟨k, refusal, job, rfl, found, jobs, begun, events⟩
  · refine ⟨by rw [jobs], quiet ?_, by rw [begun]; exact named⟩
    intro e member
    rw [silent e member]
    exact (Option.some_ne_none j).symm
  · have new : h.system.begun ≠ j := Nat.ne_of_gt named
    refine ⟨by rw [jobs, Table.get?_insert, if_neg new], quiet ?_,
      by rw [begun]; exact Nat.lt_succ_of_lt named⟩
    intro e member
    rw [events] at member
    rw [Move.job?_of_mem_events member, begins, Option.map_some]
    exact fun same => new (Option.some.inj same)
  · have apart : k ≠ j := by
      rintro rfl
      exact Move.ne_step other refusal rfl
    refine ⟨by rw [jobs, System.get?_proceed, if_neg apart], quiet ?_, by rw [begun]; exact named⟩
    intro e member
    rw [events] at member
    rw [(Job.of_mem_events member).1]
    exact fun same => apart (Option.some.inj same)

theorem extend_over (finished : h.job? j = none) (refusal : Refusal) :
    h.extend (.step j refusal) = h := by
  rw [job?] at finished
  simp [extend, System.act, finished]

/-- What a step of a job makes of the job and of the trace. -/
theorem extend_own {job : Job} (found : h.job? j = some job) (refusal : Refusal) :
    (h.extend (.step j refusal)).job? j =
        Job.rest (job.step h.system.tracker refusal).progress ∧
      (h.extend (.step j refusal)).trace = h.trace ++ job.events j h.system.tracker refusal ∧
      (h.extend (.step j refusal)).system.begun = h.system.begun := by
  rw [job?] at found
  simp [extend, job?, System.act, found, System.get?_proceed]

theorem log_own {job : Job} (found : h.job? j = some job) (refusal : Refusal) :
    logOf j (h.extend (.step j refusal)).trace =
      logOf j h.trace ++ job.events j h.system.tracker refusal := by
  rw [(extend_own found refusal).2.1, logOf_append,
    logOf_eq_self fun e member => (Job.of_mem_events member).1]

/-- What its own steps keep holds of a job, and of its log from a point on, after
any further moves. -/
theorem goOn_log {P : List Event → Option Job → Prop}
    (steps : ∀ t refusal job log, P log (some job) →
      P (log ++ job.events j t refusal) (Job.rest (job.step t refusal).progress))
    (named : j < h.system.begun) {before log : List Event} (place : logOf j h.trace = before ++ log)
    (stands : P log (h.job? j)) (later : List Move) :
    ∃ log, logOf j (h.goOn later).trace = before ++ log ∧ P log ((h.goOn later).job? j) := by
  induction later generalizing h log with
  | nil => exact ⟨log, place, stands⟩
  | cons m rest ih =>
    cases own : m.isStepOf j with
    | false =>
      obtain ⟨job, log', named'⟩ := extend_other named own
      rw [← job] at stands
      exact ih named' (log'.trans place) stands
    | true =>
      obtain ⟨refusal, rfl⟩ := Move.eq_step own
      cases found : h.job? j with
      | none =>
        show ∃ log, logOf j (((h.extend (.step j refusal))).goOn rest).trace = before ++ log ∧
          P log (((h.extend (.step j refusal)).goOn rest).job? j)
        rw [extend_over found]
        exact ih named place stands
      | some job =>
        rw [found] at stands
        obtain ⟨left, -, begun⟩ := extend_own found refusal
        have stands := steps h.system.tracker refusal job log stands
        rw [← left] at stands
        refine ih (begun ▸ named) ?_ stands
        rw [log_own found, place, List.append_assoc]

end History

end NodeWatch
