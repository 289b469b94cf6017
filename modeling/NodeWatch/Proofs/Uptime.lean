/-
NodeWatch.Proofs.Uptime — how far a flush gets.

The entry of a node tells how long the node has been up: the instant of the
flush less the startup time of its record.  Startup times are whatever the
feed says, and the difference is not checked: where it does not fit its
word, the flush is lost, and so are the entries that would have come after.

Main statement: let a flush take its snapshot, let its calls not be refused,
and let it make two steps for each tracked node.  Whatever else goes on, it
is over then.  It has made an attempt for each reading before the first one
whose uptime does not fit, and it has reported exactly if there is none
(`flush_outcome`).  A frame of the feed is enough to lose a flush, with no
entry written (`startup_stops_flush`).
-/
import Mathlib.Data.List.TakeWhile
import NodeWatch.Feed.Decode
import NodeWatch.Proofs.Linearization
import NodeWatch.Snapshot.Scheduler

namespace NodeWatch

/-! ## 1. Startup times that can be borne -/

namespace Reading

/-- When the node of a reading was started, as far as a store knows. -/
def startupIn (store : Store) (r : Reading) : Option Int64 :=
  (store.profile? r.values.durableId).bind Profile.startup

/-- Whether the time since a node was started fits its word. -/
def Bearable (now : Int64) (store : Store) (r : Reading) : Prop :=
  ∀ startup ∈ r.startupIn store, Word.FitsSigned (now.toInt - startup.toInt)

instance (now : Int64) (store : Store) : DecidablePred (Bearable now store) :=
  fun r => inferInstanceAs (Decidable (∀ startup ∈ r.startupIn store, _))

/-- Whether an entry is the one of a reading at an instant, with the startup
time that a store knows. -/
def Written (now : Int64) (store : Store) (r : Reading) (entry : HistoryEntry) : Prop :=
  r.toEntry now (r.startupIn store) = .ok entry

variable {now : Int64} {store : Store} {r : Reading}

theorem bearable_of_none (unknown : r.startupIn store = none) : r.Bearable now store := by
  simp [Bearable, unknown]

theorem bearable_iff {startup : Int64} (known : r.startupIn store = some startup) :
    r.Bearable now store ↔ Word.FitsSigned (now.toInt - startup.toInt) := by
  simp [Bearable, known]

theorem exists_written (bearable : r.Bearable now store) : ∃ entry, r.Written now store entry := by
  unfold Written
  rw [toEntry_eq]
  cases known : r.startupIn store with
  | none => exact ⟨_, rfl⟩
  | some startup =>
    have fits := (bearable_iff known).1 bearable
    simp only [Option.mapM_some, Word.subtract, Word.signed, if_pos fits]
    exact ⟨_, rfl⟩

theorem toEntry_unbearable (unbearable : ¬ r.Bearable now store) :
    r.toEntry now (r.startupIn store) = .error .subtract := by
  rw [toEntry_eq]
  cases known : r.startupIn store with
  | none => exact absurd (bearable_of_none known) unbearable
  | some startup =>
    have outside := mt (bearable_iff known).2 unbearable
    simp only [Option.mapM_some, Word.subtract, Word.signed, if_neg outside]
    rfl

end Reading

section

variable {now : Int64} {store : Store} {readings : List Reading}

theorem Reading.nodes_written {entries : List HistoryEntry}
    (written : List.Forall₂ (Written now store) readings entries) :
    entries.map (·.node) = readings.map (·.values.durableId) := by
  induction written with
  | nil => rfl
  | cons first _ ih =>
    rw [List.map_cons, List.map_cons, Entered.node ⟨_, first⟩, ih]

theorem Reading.length_takeWhile_lt (one : ∃ r ∈ readings, ¬ r.Bearable now store) :
    (readings.takeWhile fun r => decide (r.Bearable now store)).length < readings.length := by
  obtain ⟨r, member, unbearable⟩ := one
  rcases Nat.lt_or_ge _ readings.length with fewer | whole
  · exact fewer
  · have same := (List.takeWhile_prefix _).eq_of_length_le whole
    exact absurd (of_decide_eq_true (List.takeWhile_eq_self_iff.1 same r member)) unbearable

end

/-! ## 2. The steps of an unrefused flush -/

namespace Flushing

/-- How a flush goes on, as a job. -/
def onward (now : Int64) (report : Report) : List Reading → Progress Job Job.Result
  | [] => .ended (.flushed report)
  | reading :: rest => .running (.flushing (.finding now reading rest report))

theorem map_next {s : Step Flushing (Except Overflow Report)} {now : Int64} {report : Report}
    {readings : List Reading} (h : s.progress = next now report readings) :
    (s.map Job.flushing (Job.Result.ofExcept .flushed)).progress = onward now report readings := by
  simp only [Step.map, h]
  cases readings <;> rfl

theorem finding_progress {t t' : Tracker} (now : Int64) {reading : Reading}
    (rest : List Reading) (report : Report)
    (same : t.store.profile? reading.values.durableId =
      t'.store.profile? reading.values.durableId) :
    ((finding now reading rest report).step t none).progress =
      match reading.toEntry now (reading.startupIn t'.store) with
      | .error cause => .ended (.error cause)
      | .ok entry => .running (.appending now entry rest report) := by
  have known : (t.store.profile? reading.values.durableId).bind Profile.startup =
      reading.startupIn t'.store := by
    rw [same]
    rfl
  simp only [step, startupOf_find, known]
  cases reading.toEntry now (reading.startupIn t'.store) <;> rfl

end Flushing

/-! ## 3. The whole of a flush -/

namespace History

/-- What comes of a flush with so many readings left, as its log tells. -/
structure Outcome (now : Int64) (store : Store) (j : JobId) (readings : List Reading)
    (report : Report) (events : List Event) : Prop where
  /-- There is an attempt for each reading before the first unbearable one. -/
  attempts : List.Forall₂ (Reading.Written now store)
    (readings.takeWhile fun r => decide (r.Bearable now store))
    (events.filterMap Event.attempt?)
  survives : (∀ r ∈ readings, r.Bearable now store) →
    ∃ report', .ended j (.flushed report') ∈ events ∧ report'.tracked = report.tracked ∧
      report'.written + report'.failed = report.written + report.failed + readings.length
  stops : (∃ r ∈ readings, ¬ r.Bearable now store) → .ended j (.lost .subtract) ∈ events

variable {j : JobId} {h : History} {t : Tracker} {now : Int64} {r : Reading}
  {rest : List Reading} {report : Report}

theorem Outcome.lost {store : Store} (unbearable : ¬ r.Bearable now store) :
    Outcome now store j (r :: rest) report [.ended j (.lost .subtract)] := by
  refine ⟨?_, ?_, fun _ => List.mem_cons_self⟩
  · rw [List.takeWhile_cons_of_neg (by simpa using unbearable)]
    exact .nil
  · intro all
    exact absurd (all r List.mem_cons_self) unbearable

theorem Outcome.cons {store : Store} {report' : Report} {entry : HistoryEntry} {done : Bool}
    {events : List Event} (bearable : r.Bearable now store)
    (written : r.Written now store entry) (tracked : report'.tracked = report.tracked)
    (counted : report'.written + report'.failed = report.written + report.failed + 1)
    (later : Outcome now store j rest report' events) :
    Outcome now store j (r :: rest) report (.appended j entry done :: events) := by
  constructor
  · rw [List.takeWhile_cons_of_pos (by simpa using bearable)]
    exact .cons written later.attempts
  · intro all
    obtain ⟨final, ended, total, sum⟩ :=
      later.survives fun r' member => all r' (List.mem_cons_of_mem r member)
    refine ⟨final, List.mem_cons_of_mem _ ended, total.trans tracked, ?_⟩
    rw [sum, counted, List.length_cons]
    omega
  · rintro ⟨r', member, unbearable⟩
    rcases List.mem_cons.1 member with rfl | member
    · exact absurd bearable unbearable
    · exact List.mem_cons_of_mem _ (later.stops ⟨r', member, unbearable⟩)

/-- A step that reads a record loses the flush, or comes to the entry. -/
theorem step_finding (found : h.job? j = some (.flushing (.finding now r rest report)))
    (same : h.system.tracker.store.profile? r.values.durableId =
      t.store.profile? r.values.durableId) :
    (¬ r.Bearable now t.store ∧ (h.extend (.step j none)).job? j = none ∧
        logOf j (h.extend (.step j none)).trace =
          logOf j h.trace ++ [.ended j (.lost .subtract)]) ∨
      ∃ entry, r.Bearable now t.store ∧ r.Written now t.store entry ∧
        (h.extend (.step j none)).job? j = some (.flushing (.appending now entry rest report)) ∧
        logOf j (h.extend (.step j none)).trace = logOf j h.trace := by
  have progress := Flushing.finding_progress now rest report same
  have left := (extend_own found none).1
  have log := log_own found none
  rw [step_flushing] at left
  rw [events_flushing] at log
  by_cases bearable : r.Bearable now t.store
  · obtain ⟨entry, written⟩ := Reading.exists_written bearable
    rw [written] at progress
    simp only [Step.map, progress] at left log
    exact Or.inr ⟨entry, bearable, written, left, by simpa [Flushing.events, Job.ending] using log⟩
  · rw [Reading.toEntry_unbearable bearable] at progress
    simp only [Step.map, progress] at left log
    exact Or.inl ⟨bearable, left, log⟩

/-- A step that appends an entry takes the flush to the next reading. -/
theorem step_appending {entry : HistoryEntry}
    (found : h.job? j = some (.flushing (.appending now entry rest report))) :
    ∃ report' done, report'.tracked = report.tracked ∧
      report'.written + report'.failed = report.written + report.failed + 1 ∧
      (h.extend (.step j none)).job? j = Job.rest (Flushing.onward now report' rest) ∧
      logOf j (h.extend (.step j none)).trace = logOf j h.trace ++
        .appended j entry done :: Job.ending j (Flushing.onward now report' rest) := by
  obtain ⟨report', goesOn, tracked, counted⟩ :=
    Flushing.appending_progress h.system.tracker none now entry rest report
  have left := (extend_own found none).1
  have log := log_own found none
  rw [step_flushing, Flushing.map_next goesOn] at left
  rw [events_flushing, Flushing.map_next goesOn] at log
  exact ⟨report', _, tracked, counted, left, log⟩

theorem goOn_over (finished : h.job? j = none) (k : Nat) :
    h.goOn (List.replicate k (.step j none)) = h := by
  induction k with
  | zero => rfl
  | succ k ih =>
    rw [List.replicate_succ, goOn, List.foldl_cons, extend_over finished]
    exact ih

/-- A flush whose calls are not refused needs two steps for each reading. -/
theorem exists_outcome {readings : List Reading}
    (left : h.job? j = Job.rest (Flushing.onward now report readings))
    (fresh : h.system.tracker.store.Fresh)
    (same : SameRecords (readings.map (·.values.durableId)) h.system.tracker t) {k : Nat}
    (enough : 2 * readings.length ≤ k) :
    (h.goOn (List.replicate k (.step j none))).job? j = none ∧
      ∃ events, logOf j (h.goOn (List.replicate k (.step j none))).trace =
          logOf j h.trace ++ events ∧
        Outcome now t.store j readings report
          (Job.ending j (Flushing.onward now report readings) ++ events) := by
  induction readings generalizing h report k with
  | nil =>
    have finished : h.job? j = none := left
    rw [goOn_over finished]
    refine ⟨finished, [], (List.append_nil _).symm, .nil, ?_, ?_⟩
    · intro _
      exact ⟨report, List.mem_cons_self, rfl, rfl⟩
    · rintro ⟨r, member, -⟩
      cases member
  | cons r rest ih =>
    obtain ⟨m, rfl⟩ : ∃ m, k = m + 1 + 1 := ⟨k - 2, by simp at enough; omega⟩
    obtain ⟨profile, here, there⟩ := same.profiles r.values.durableId List.mem_cons_self
    rw [List.replicate_succ, goOn, List.foldl_cons]
    rcases step_finding left (here.trans there.symm) with ⟨unbearable, finished, log⟩ |
      ⟨entry, bearable, written, found, log⟩
    · have ends := goOn_over finished (m + 1)
      rw [goOn] at ends
      rw [ends]
      exact ⟨finished, _, log, .lost unbearable⟩
    · obtain ⟨report', done, tracked, counted, left, log'⟩ := step_appending found
      have fresh' := fresh_extend (fresh_extend fresh (.step j none)) (.step j none)
      have same' := sameRecords_extend (sameRecords_extend same fresh (.step j none))
        (fresh_extend fresh (.step j none)) (.step j none)
      have fewer : 2 * rest.length ≤ m := by
        simp at enough
        omega
      obtain ⟨finished, events, logEnd, later⟩ :=
        ih left fresh' (same'.of_subset (List.subset_cons_self _ _)) fewer
      rw [List.replicate_succ, List.foldl_cons]
      refine ⟨finished, .appended j entry done :: (_ ++ events), ?_,
        .cons bearable written tracked counted later⟩
      rw [goOn] at logEnd
      rw [logEnd, log', log]
      simp

/-! ## 4. Flushes of runs -/

/-- How a flush of readings at an instant has ended. -/
structure Flushed (now : Int64) (store : Store) (j : JobId) (readings : List Reading)
    (h : History) : Prop where
  finished : h.job? j = none
  /-- There is an attempt for each reading before the first one whose uptime
  does not fit. -/
  written : List.Forall₂ (Reading.Written now store)
    (readings.takeWhile fun r => decide (r.Bearable now store)) (attempts j h.trace)
  /-- If there is none, the flush has made one attempt for each node, and it
  has reported. -/
  survives : (∀ r ∈ readings, r.Bearable now store) →
    (attempts j h.trace).map (·.node) = readings.map (·.values.durableId) ∧
      ∃ report, .ended j (.flushed report) ∈ h.trace ∧ report.tracked = readings.length ∧
        report.written + report.failed = readings.length
  /-- If there is one, it is lost, and so is an entry at least. -/
  stops : (∃ r ∈ readings, ¬ r.Bearable now store) →
    .ended j (.lost .subtract) ∈ h.trace ∧
      (attempts j h.trace).length < readings.length

/-- Before its snapshot a flush has told of nothing. -/
theorem log_unbegun {store : Store} {policy : RetryPolicy} {moves : List Move}
    (begun : (run store policy moves).job? j = some (.flushing (.unbegun now))) :
    logOf j (run store policy moves).trace = [] := by
  have flushLog := run_flushLog store policy moves j
  rw [begun] at flushLog
  generalize logOf j (run store policy moves).trace = log at flushLog
  cases flushLog with
  | aside aside unbegun => exact (unbegun _ rfl).1
  | taken once entered owes =>
    rcases owes with owes | ⟨finished, -⟩
    · cases owes
    · cases finished

/-- The step that takes the snapshot. -/
theorem step_unbegun (found : h.job? j = some (.flushing (.unbegun now))) :
    (h.extend (.step j none)).job? j =
        Job.rest (Flushing.onward now (.begin h.registry.snapshot.1.length)
          h.registry.snapshot.1) ∧
      logOf j (h.extend (.step j none)).trace = logOf j h.trace ++
        .snapped j now h.registry.snapshot.1 ::
          Job.ending j (Flushing.onward now (.begin h.registry.snapshot.1.length)
            h.registry.snapshot.1) ∧
      (h.extend (.step j none)).system.tracker.store = h.system.tracker.store := by
  have left := (extend_own found none).1
  have log := log_own found none
  rw [step_flushing, Flushing.map_next rfl] at left
  rw [events_flushing, Flushing.map_next rfl] at log
  refine ⟨left, log, ?_⟩
  rw [job?] at found
  simp [extend, System.act, found, step_flushing, Step.map, Flushing.step]

/-- Two steps for each reading see a flush to its end, whatever else goes on
meanwhile. -/
theorem flushed_of_enough {store : Store} (fresh : store.Fresh) {policy : RetryPolicy}
    {pre post : List Move}
    (begun : (run store policy pre).job? j = some (.flushing (.unbegun now)))
    (unrefused : ∀ m ∈ ownSteps j post, m = .step j none)
    (enough : 2 * (run store policy pre).registry.size ≤ (ownSteps j post).length) :
    Flushed now (run store policy pre).system.tracker.store j
      (run store policy pre).registry.snapshot.1
      ((run store policy (pre ++ [.step j none])).goOn post) := by
  have parallel := (taken_snapshot begun none).parallel fresh
  have fresh' := run_fresh fresh policy (pre ++ [.step j none])
  have size : (run store policy pre).registry.snapshot.1.length =
      (run store policy pre).registry.size := by
    rw [(run store policy pre).registry.snapshot_perm.length_eq, List.length_map]
    rfl
  obtain ⟨left, log, same⟩ := step_unbegun begun
  rw [log_unbegun begun, List.nil_append] at log
  rw [← size] at enough
  have snapshot : run store policy (pre ++ [.step j none]) =
      (run store policy pre).extend (.step j none) := by
    rw [run_append]
    rfl
  rw [← snapshot] at left log same
  rw [← same]
  generalize (run store policy pre).registry.snapshot.1 = readings at left log enough
  generalize run store policy (pre ++ [.step j none]) = h at parallel fresh' left log
  have records : SameRecords (readings.map (·.values.durableId)) h.system.tracker
      h.system.tracker := by
    cases readings with
    | nil => exact ⟨rfl, fun d member => by cases member⟩
    | cons r rest => exact parallel.records _ left
  obtain ⟨finished, events, log', outcome⟩ := exists_outcome left fresh' records enough
  rw [← List.eq_replicate_of_mem unrefused] at finished log'
  have whole := parallel.goOn post
  rw [← whole.job] at finished
  rw [← whole.log, log, List.cons_append] at log'
  have told : ∀ e ∈ Job.ending j (Flushing.onward now (.begin readings.length) readings) ++ events,
      e ∈ (h.goOn post).trace := by
    intro e member
    exact mem_of_mem_logOf (log' ▸ List.mem_cons_of_mem _ member)
  have made : attempts j (h.goOn post).trace =
      (Job.ending j (Flushing.onward now (.begin readings.length) readings) ++ events).filterMap
        Event.attempt? := by
    rw [attempts, log']
    rfl
  refine ⟨finished, by rw [made]; exact outcome.attempts, ?_, ?_⟩
  · intro all
    obtain ⟨report, ended, tracked, sum⟩ := outcome.survives all
    refine ⟨?_, report, told _ ended, tracked, by simpa [Report.begin] using sum⟩
    have every := outcome.attempts
    rw [List.takeWhile_eq_self_iff.2 fun r member => decide_eq_true (all r member), ← made] at every
    exact Reading.nodes_written every
  · intro one
    refine ⟨told _ (outcome.stops one), ?_⟩
    rw [made, ← outcome.attempts.length_eq]
    exact Reading.length_takeWhile_lt one

/-- A step of a flush tells of its loss exactly if it has met an overflow. -/
theorem lost_iff {store : Store} {policy : RetryPolicy} {moves : List Move} {f : Flushing}
    (found : (run store policy moves).job? j = some (.flushing f)) (cause : Overflow) :
    .ended j (.lost cause) ∈ ((run store policy moves).extend (.step j none)).trace ↔
      (f.step (run store policy moves).system.tracker none).progress = .ended (.error cause) := by
  have running : .ended j (.lost cause) ∉ (run store policy moves).trace := by
    intro ended
    rw [job?_of_ended ended] at found
    cases found
  rw [(extend_own found none).2.1, List.mem_append, or_iff_right running, events_flushing,
    List.mem_append]
  have quiet : .ended j (.lost cause) ∉ f.events j (run store policy moves).system.tracker none := by
    cases f <;> simp [Flushing.events]
  rw [or_iff_right quiet, Step.map]
  cases (f.step (run store policy moves).system.tracker none).progress with
  | running left => simp [Job.ending]
  | ended result => cases result <;> simp [Job.ending, Job.Result.ofExcept, eq_comm]

end History

/-- A scheduler ends with an overflow exactly if its flush does. -/
theorem Scheduler.ended_iff {s : Scheduler} {ticker : Ticker} {final : Bool} {begun : Nat}
    {f : Flushing} (stage : s.stage = .flushing ticker final begun f) (clock : Clock)
    (preferred : Scheduler.Branch) (t : Tracker) (refusal : Refusal) (cause : Overflow) :
    (s.step clock preferred t refusal).progress = .ended (.error cause) ↔
      (f.step t refusal).progress = .ended (.error cause) := by
  simp only [step, stage, afterFlushing]
  cases (f.step t refusal).progress with
  | running left => simp
  | ended result =>
    cases result with
    | error cause' => simp
    | ok report => cases final <;> simp

/-- What a scheduler comes to that is never told to stop, while nothing else
goes on: one step at each reading of the clocks. -/
def Scheduler.alone (t : Tracker) (s : Scheduler) :
    List Clock → Progress Scheduler (Except Overflow Report)
  | [] => .running s
  | clock :: rest =>
    let after := s.step clock .tick t none
    match after.progress with
    | .running s => alone after.tracker s rest
    | .ended result => .ended result

namespace History

/-- A flush whose calls are not refused is over after two steps for each
tracked node, whatever else goes on.  It has made one attempt for each of
them if every uptime fits, and else for those before the first that does
not.  A scheduler in its place would end where it is lost, and only there. -/
theorem flush_outcome {store : Store} (fresh : store.Fresh) (policy : RetryPolicy)
    {pre : List Move} {j : JobId} {now : Int64}
    (begun : (run store policy pre).job? j = some (.flushing (.unbegun now)))
    {post : List Move} (unrefused : ∀ m ∈ ownSteps j post, m = .step j none)
    (enough : 2 * (run store policy pre).registry.size ≤ (ownSteps j post).length) :
    Flushed now (run store policy pre).system.tracker.store j
        (run store policy pre).registry.snapshot.1
        ((run store policy (pre ++ [.step j none])).goOn post) ∧
      ∀ sofar f, ((run store policy (pre ++ [.step j none])).goOn sofar).job? j =
          some (.flushing f) →
        ∀ (s : Scheduler) ticker final start, s.stage = .flushing ticker final start f →
          ∀ clock preferred cause,
            (s.step clock preferred
                ((run store policy (pre ++ [.step j none])).goOn sofar).system.tracker
                none).progress = .ended (.error cause) ↔
              .ended j (.lost cause) ∈
                (((run store policy (pre ++ [.step j none])).goOn sofar).extend
                  (.step j none)).trace := by
  refine ⟨flushed_of_enough fresh begun unrefused enough, ?_⟩
  intro sofar f found s ticker final start stage clock preferred cause
  rw [← run_append] at found ⊢
  rw [Scheduler.ended_iff stage, lost_iff found]

/-- The announcement of a node that was started at an instant. -/
def exampleStarted (f : FeedId) (startup : Int64) : Announcement :=
  { exampleNode f none with profile := { (exampleNode f none).profile with startup } }

/-- Two nodes are announced, and a flush is begun. -/
def exampleUptimes : List Move :=
  [.message 0 (.addedNode (exampleStarted 7 1000)), .message 0 (.addedNode (exampleStarted 8 2000)),
    .step 0 none, .step 1 none, .call (.flush 5000)]

/-- One of them is removed while the flush goes on. -/
def exampleRemoval : List Move :=
  [.step 2 none, .message 1 (.removedNode 8), .step 2 none, .step 2 none, .step 2 none]

theorem flush_outcome_exampleUptimes :
    (attempts 2 ((run (.memory .empty) .default (exampleUptimes ++ [.step 2 none])).goOn
        exampleRemoval).trace).map (·.uptime) = [some 4000, some 3000] ∧
      Flushed 5000 (run (.memory .empty) .default exampleUptimes).system.tracker.store 2
        (run (.memory .empty) .default exampleUptimes).registry.snapshot.1
        ((run (.memory .empty) .default (exampleUptimes ++ [.step 2 none])).goOn
          exampleRemoval) := by
  have begun : (run (.memory .empty) .default exampleUptimes).job? 2 =
      some (.flushing (.unbegun 5000)) := rfl
  have unrefused : ∀ m ∈ ownSteps 2 exampleRemoval, m = .step 2 none := by
    have own : ownSteps 2 exampleRemoval = List.replicate 4 (.step 2 none) := rfl
    rw [own]
    exact fun m => List.eq_of_mem_replicate
  have enough : 2 * (run (.memory .empty) .default exampleUptimes).registry.size ≤
      (ownSteps 2 exampleRemoval).length := by decide
  exact ⟨rfl, (flush_outcome (Store.fresh_withLimit _) .default begun unrefused enough).1⟩

/-- A frame that announces two nodes, the first of them started at the
beginning of all time. -/
def exampleFrame : String :=
  "[3,[7,[\"a\",\"\",\"\"],[0,0],0,0,[1,\"\",6000,0,null],null,-9223372036854775808]," ++
    "3,[8,[\"b\",\"\",\"\"],[0,0],0,0,[1,\"\",6000,0,null],null,1000]]"

/-- A node as the frame announces it. -/
def exampleAnnounced (f : FeedId) (name : String) (startup : Int64) : Announcement where
  feedId := f
  profile := ⟨name, "", "", none, none, some startup⟩
  gauges := ⟨0, 0⟩
  block := ⟨1, "", 6000, 0, none⟩
  location := none

set_option maxRecDepth 10000 in
theorem ofFrame_exampleFrame : Message.ofFrame exampleFrame =
    .ok [.ok (.addedNode (exampleAnnounced 7 "a" (-9223372036854775808))),
      .ok (.addedNode (exampleAnnounced 8 "b" 1000))] := rfl

/-- What the frame leads to, and a flush with all the steps that it needs. -/
def exampleLost : List Move :=
  [.message 0 (.addedNode (exampleAnnounced 7 "a" (-9223372036854775808))),
    .message 0 (.addedNode (exampleAnnounced 8 "b" 1000)), .step 0 none, .step 1 none,
    .call (.flush 5000), .step 2 none, .step 2 none, .step 2 none, .step 2 none, .step 2 none]

/-- The startup time of one node stops a flush before any entry is written,
and ends the scheduler with it. -/
theorem startup_stops_flush :
    Message.ofFrame exampleFrame =
        .ok [.ok (.addedNode (exampleAnnounced 7 "a" (-9223372036854775808))),
          .ok (.addedNode (exampleAnnounced 8 "b" 1000))] ∧
      (run (.memory .empty) .default exampleLost).registry.size = 2 ∧
      (run (.memory .empty) .default exampleLost).job? 2 = none ∧
      .ended 2 (.lost .subtract) ∈ (run (.memory .empty) .default exampleLost).trace ∧
      attempts 2 (run (.memory .empty) .default exampleLost).trace = [] ∧
      Scheduler.alone (run (.memory .empty) .default exampleLost).system.tracker (.new 60000)
        [⟨0, 5000⟩, ⟨60000, 65000⟩, ⟨60000, 65000⟩, ⟨60000, 65000⟩] =
          .ended (.error .subtract) := by
  have told : (run (.memory .empty) .default exampleLost).trace.getLast? =
      some (.ended 2 (.lost .subtract)) := rfl
  exact ⟨ofFrame_exampleFrame, rfl, rfl, List.mem_of_getLast? told, rfl, rfl⟩

end History

end NodeWatch
