/-
NodeWatch.Proofs.Appending — what a flush appends.

A flush takes one snapshot and goes through its readings in their order.
Its log is the snapshot and then an attempt for each reading that it has
gone through; what is left of the flush owes the other readings
(`FlushLog`).  So a flush that has ended, and not by an overflow, has made
one attempt for every reading (`attempts_of_snapped`), whatever else went on
in the meantime and however many of its calls were refused.
-/
import Mathlib.Data.List.Forall2
import NodeWatch.Proofs.Interval
import NodeWatch.Proofs.System.Log

namespace NodeWatch

/-! ## 1. Attempts -/

namespace Event

/-- The entry that an event is the attempt to append. -/
def attempt? : Event → Option HistoryEntry
  | appended _ entry _ => some entry
  | _ => none

theorem snapshot?_eq_none {e : Event} (h : e.work ≠ .flushing) : e.snapshot? = none := by
  cases e with
  | snapped j now readings => exact absurd rfl h
  | _ => rfl

theorem attempt?_eq_none {e : Event} (h : e.work ≠ .flushing) : e.attempt? = none := by
  cases e with
  | appended j entry done => exact absurd rfl h
  | _ => rfl

end Event

/-- The entries that a job has made an attempt to append. -/
def attempts (j : JobId) (trace : List Event) : List HistoryEntry :=
  (logOf j trace).filterMap Event.attempt?

/-- Whether an entry is that of a reading, with some startup time. -/
def Entered (now : Int64) (reading : Reading) (entry : HistoryEntry) : Prop :=
  ∃ startup, reading.toEntry now startup = .ok entry

theorem Entered.node {now : Int64} {reading : Reading} {entry : HistoryEntry}
    (h : Entered now reading entry) : entry.node = reading.values.durableId := by
  obtain ⟨startup, h⟩ := h
  obtain ⟨uptime, rfl⟩ := Reading.eq_of_toEntry h
  rfl

/-! ## 2. The log of a flush -/

/-- The readings for which what is left of a flush has made no attempt. -/
def Owes (now : Int64) (todo : List Reading) : Option Job → Prop
  | none => todo = []
  | some (.flushing (.finding now' reading rest _)) => now' = now ∧ todo = reading :: rest
  | some (.flushing (.appending now' entry rest _)) =>
    now' = now ∧ ∃ reading, todo = reading :: rest ∧ Entered now reading entry
  | some _ => False

/-- What the log of a job and what is left of the job say of its flush, if
it is one. -/
inductive FlushLog (j : JobId) : List Event → Option Job → Prop
  /-- No snapshot has been taken. -/
  | aside {log : List Event} {left : Option Job} (aside : ∀ e ∈ log, e.work ≠ .flushing)
      (unbegun : ∀ f, left = some (.flushing f) → log = [] ∧ ∃ now, f = .unbegun now) :
      FlushLog j log left
  /-- A snapshot has been taken, and attempts have been made for some of
  its readings. -/
  | taken {now : Int64} {done todo : List Reading} {tail : List Event} {left : Option Job}
      (once : ∀ e ∈ tail, e.snapshot? = none)
      (entered : List.Forall₂ (Entered now) done (tail.filterMap Event.attempt?))
      (owes : Owes now todo left ∨ left = none ∧ .ended j (.lost .subtract) ∈ tail) :
      FlushLog j (.snapped j now (done ++ todo) :: tail) left

theorem aside_ending (j : JobId) (progress : Progress Job Job.Result) :
    ∀ e ∈ Job.ending j progress, e.work ≠ .flushing := by
  intro e he
  obtain ⟨result, rfl, -⟩ := Job.mem_ending he
  simp [Event.work]

/-- How a flush goes on when readings are left. -/
theorem owes_next {s : Step Flushing (Except Overflow Report)} {now : Int64} {report : Report}
    {readings : List Reading} (h : s.progress = Flushing.next now report readings) :
    Owes now readings (Job.rest (s.map Job.flushing (.ofExcept .flushed)).progress) := by
  simp only [Step.map, h]
  cases readings with
  | nil => rfl
  | cons reading rest => exact ⟨rfl, rfl⟩

/-- Events that are aside leave what a flush has done. -/
theorem FlushLog.append_aside (j : JobId) {now : Int64} {done todo : List Reading}
    {tail events : List Event} {left : Option Job} (once : ∀ e ∈ tail, e.snapshot? = none)
    (entered : List.Forall₂ (Entered now) done (tail.filterMap Event.attempt?))
    (aside : ∀ e ∈ events, e.work ≠ .flushing)
    (owes : Owes now todo left ∨ left = none ∧ .ended j (.lost .subtract) ∈ tail ++ events) :
    FlushLog j (.snapped j now (done ++ todo) :: (tail ++ events)) left := by
  have silent : events.filterMap Event.attempt? = [] :=
    List.filterMap_eq_nil_iff.2 fun e he => Event.attempt?_eq_none (aside e he)
  refine .taken ?_ ?_ owes
  · intro e he
    rcases List.mem_append.1 he with old | new
    · exact once e old
    · exact Event.snapshot?_eq_none (aside e new)
  · rw [List.filterMap_append, silent, List.append_nil]
    exact entered

theorem step_flushing (t : Tracker) (refusal : Refusal) (f : Flushing) :
    (Job.flushing f).step t refusal = (f.step t refusal).map .flushing (.ofExcept .flushed) := rfl

theorem events_flushing (j : JobId) (t : Tracker) (refusal : Refusal) (f : Flushing) :
    (Job.flushing f).events j t refusal = f.events j t refusal ++
      Job.ending j ((f.step t refusal).map Job.flushing (.ofExcept .flushed)).progress := rfl

/-- An entry is counted, whatever comes of it, and the flush goes on. -/
theorem Flushing.appending_progress (t : Tracker) (refusal : Refusal) (now : Int64)
    (entry : HistoryEntry) (rest : List Reading) (report : Report) :
    ∃ report', ((appending now entry rest report).step t refusal).progress =
        next now report' rest ∧
      report'.tracked = report.tracked ∧
      report'.written + report'.failed = report.written + report.failed + 1 := by
  simp only [step]
  cases t.append refusal entry with
  | ok t' => exact ⟨report.wrote, rfl, rfl, by simp [Report.wrote]; omega⟩
  | error cause => exact ⟨report.missed, rfl, rfl, by simp [Report.missed]; omega⟩

/-- The step of a flush that has taken its snapshot. -/
theorem FlushLog.step {j : JobId} {t : Tracker} {refusal : Refusal} {f : Flushing} {now : Int64}
    {done todo : List Reading} {tail : List Event} (once : ∀ e ∈ tail, e.snapshot? = none)
    (entered : List.Forall₂ (Entered now) done (tail.filterMap Event.attempt?))
    (owes : Owes now todo (some (.flushing f))) :
    FlushLog j (.snapped j now (done ++ todo) :: (tail ++ (Job.flushing f).events j t refusal))
      (Job.rest ((Job.flushing f).step t refusal).progress) := by
  rw [step_flushing, events_flushing]
  cases f with
  | unbegun now => cases owes
  | finding now' reading rest report =>
    obtain ⟨rfl, rfl⟩ := owes
    rw [Flushing.events, List.nil_append]
    refine append_aside j once entered (aside_ending j _) ?_
    simp only [Flushing.step]
    generalize Flushing.startupOf reading.values.durableId
      (t.find refusal reading.values.durableId) = found
    cases entry : reading.toEntry now' found.1 with
    | ok entry' => exact Or.inl ⟨rfl, reading, rfl, found.1, entry⟩
    | error cause =>
      cases Reading.toEntry_error entry
      exact Or.inr ⟨rfl, by simp [Step.map, Job.ending, Job.Result.ofExcept]⟩
  | appending now' entry rest report =>
    obtain ⟨rfl, reading, rfl, fromReading⟩ := owes
    have onceMore : ∀ e ∈ tail ++ [.appended j entry (t.append refusal entry).isOk],
        e.snapshot? = none := by
      intro e he
      rcases List.mem_append.1 he with old | new
      · exact once e old
      · rw [List.mem_singleton.1 new]
        rfl
    have enteredMore : List.Forall₂ (Entered now') (done ++ [reading])
        ((tail ++ [Event.appended j entry (t.append refusal entry).isOk]).filterMap
          Event.attempt?) := by
      rw [List.filterMap_append]
      exact List.rel_append entered (.cons fromReading .nil)
    obtain ⟨report', goesOn, -⟩ :=
      Flushing.appending_progress t refusal now' entry rest report
    rw [Flushing.events, ← List.append_assoc, List.append_cons done]
    exact append_aside j onceMore enteredMore (aside_ending j _) (Or.inl (owes_next goesOn))

theorem logs_flushLog : History.Logs (fun _ => True) FlushLog := by
  constructor
  · exact fun j => .aside (List.forall_mem_nil _) (fun f h => by cases h)
  · intro j t m job _ begins
    by_cases flush : ∃ f, job = .flushing f
    · obtain ⟨f, rfl⟩ := flush
      cases m with
      | message now m => cases m <;> cases begins
      | call c =>
        cases c with
        | flush now =>
          cases begins
          refine .aside (List.forall_mem_nil _) ?_
          rintro f ⟨⟩
          exact ⟨rfl, now, rfl⟩
        | _ => cases begins
      | step k refusal => cases begins
    · refine .aside ?_ (fun f h => absurd ⟨f, Option.some.inj h⟩ flush)
      intro e he work
      rw [Move.work_of_mem_events begins he] at work
      cases job with
      | flushing f => exact flush ⟨f, rfl⟩
      | _ => cases work
  · intro j t refusal job log before
    cases before with
    | aside aside unbegun =>
      by_cases flush : ∃ f, job = .flushing f
      · obtain ⟨f, rfl⟩ := flush
        obtain ⟨rfl, now, rfl⟩ := unbegun f rfl
        have once : ∀ e ∈ [], Event.snapshot? e = none := List.forall_mem_nil _
        have entered : List.Forall₂ (Entered now) [] ([].filterMap Event.attempt?) := .nil
        rw [step_flushing, events_flushing, Flushing.events]
        exact FlushLog.append_aside j once entered (aside_ending j _) (Or.inl (owes_next rfl))
      · have other : job.work ≠ .flushing := by
          intro work
          cases job with
          | flushing f => exact flush ⟨f, rfl⟩
          | _ => cases work
        refine .aside ?_ ?_
        · intro e he
          rcases List.mem_append.1 he with old | new
          · exact aside e old
          · rcases (Job.of_mem_events new).2 with work | ⟨work, -⟩ | work <;> rw [work]
            · exact other
            · decide
            · decide
        · intro f goesOn
          exact absurd (Job.work_rest goesOn).symm other
    | @taken now done todo tail _ once entered owes =>
      rcases owes with owes | ⟨stopped, _⟩
      · cases job with
        | flushing f => exact FlushLog.step once entered owes
        | _ => cases owes
      · cases stopped

/-! ## 3. Attempts of a run -/

namespace History

variable {store : Store} {policy : RetryPolicy} {moves : List Move}

theorem run_flushLog (store : Store) (policy : RetryPolicy) (moves : List Move) (j : JobId) :
    FlushLog j (logOf j (run store policy moves).trace) ((run store policy moves).job? j) :=
  run_log logs_flushLog store policy (fun _ _ => trivial) j

/-- A job takes one snapshot. -/
theorem nodup_snapshots (store : Store) (policy : RetryPolicy) (moves : List Move) :
    (((run store policy moves).trace.filterMap Event.snapshot?).map Prod.fst).Nodup := by
  rw [List.map_filterMap]
  refine nodup_of_logs ?_ ?_
  · intro e j snapshot
    cases e with
    | snapped k now readings => exact snapshot
    | _ => cases snapshot
  intro j
  rw [← List.map_filterMap, List.length_map]
  have flushLog := run_flushLog store policy moves j
  generalize logOf j (run store policy moves).trace = log at flushLog
  cases flushLog with
  | aside aside unbegun =>
    have none : log.filterMap Event.snapshot? = [] :=
      List.filterMap_eq_nil_iff.2 fun e he => Event.snapshot?_eq_none (aside e he)
    rw [none]
    exact Nat.zero_le 1
  | @taken now done todo tail left once entered owes =>
    have none : tail.filterMap Event.snapshot? = [] := List.filterMap_eq_nil_iff.2 once
    simp [Event.snapshot?, none]

/-- Who has taken a snapshot has made attempts for its first readings, and
for all of them once it has ended without an overflow. -/
theorem attempts_of_snapped {j : JobId} {now : Int64} {readings : List Reading}
    (h : .snapped j now readings ∈ (run store policy moves).trace) :
    ∃ done todo, readings = done ++ todo ∧
      List.Forall₂ (Entered now) done (attempts j (run store policy moves).trace) ∧
      (∀ result, .ended j result ∈ (run store policy moves).trace → todo = [] ∨
        .ended j (.lost .subtract) ∈ (run store policy moves).trace) := by
  have flushLog := run_flushLog store policy moves j
  have own : .snapped j now readings ∈ logOf j (run store policy moves).trace :=
    mem_logOf.2 ⟨h, rfl⟩
  have part : ∀ e ∈ logOf j (run store policy moves).trace, e ∈ (run store policy moves).trace :=
    fun e => mem_of_mem_logOf
  have stopped : ∀ result, .ended j result ∈ (run store policy moves).trace →
      (run store policy moves).job? j = none := fun result => job?_of_ended
  unfold attempts
  generalize logOf j (run store policy moves).trace = log at flushLog own part
  generalize (run store policy moves).job? j = left at flushLog stopped
  cases flushLog with
  | aside aside unbegun => exact absurd rfl (aside _ own)
  | @taken now' done todo tail _ once entered owes =>
    rcases List.mem_cons.1 own with head | late
    · obtain ⟨-, rfl, rfl⟩ := Event.snapped.inj head
      refine ⟨done, todo, rfl, entered, ?_⟩
      intro result ended
      rcases owes with owes | ⟨-, lost⟩
      · rw [stopped result ended] at owes
        exact Or.inl owes
      · exact Or.inr (part _ (List.mem_cons_of_mem _ lost))
    · cases once _ late

theorem attempts_of_not_snapped {j : JobId}
    (h : ∀ now readings, .snapped j now readings ∉ (run store policy moves).trace) :
    attempts j (run store policy moves).trace = [] := by
  have flushLog := run_flushLog store policy moves j
  have part : ∀ e ∈ logOf j (run store policy moves).trace, e ∈ (run store policy moves).trace :=
    fun e => mem_of_mem_logOf
  unfold attempts
  generalize logOf j (run store policy moves).trace = log at flushLog part
  cases flushLog with
  | aside aside unbegun =>
    exact List.filterMap_eq_nil_iff.2 fun e he => Event.attempt?_eq_none (aside e he)
  | taken once entered owes => exact absurd (part _ List.mem_cons_self) (h _ _)

end History

end NodeWatch
