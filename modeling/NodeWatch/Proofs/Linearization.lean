/-
NodeWatch.Proofs.Linearization — a flush happens at its snapshot.

A flush that has taken its snapshot still calls the store, twice for each
reading, and in the meantime anything may happen: blocks come in, nodes are
removed and announced again, other flushes run.  Nobody notices when its
calls return.

Main statement: let a flush take its snapshot and let any moves follow.
Moving all steps of the flush to the front, right behind the snapshot,
changes neither what the flush does and reports nor anything else that is
told, and the registry is the same at every point (`flush_linearizes`).

The proof compares each run with two shorter ones.  What the flush tells
depends on its own steps only, because the records that it asks for are
there from the snapshot on and never change (`Parallel`).  What everything
else tells does not depend on its steps at all (`Alike`).
-/
import NodeWatch.Proofs.System.Apart
import NodeWatch.Proofs.System.Attribution

namespace NodeWatch

/-! ## 1. The steps of one job -/

/-- The moves that are steps of a job. -/
def ownSteps (j : JobId) (moves : List Move) : List Move :=
  moves.filter (Move.isStepOf j)

/-- The moves that are not. -/
def otherMoves (j : JobId) (moves : List Move) : List Move :=
  moves.filter fun m => !m.isStepOf j

/-- The part of a trace that does not belong to a job. -/
def logBeside (j : JobId) (trace : List Event) : List Event :=
  trace.filter fun e => !decide (e.job? = some j)

theorem logBeside_append (j : JobId) (a b : List Event) :
    logBeside j (a ++ b) = logBeside j a ++ logBeside j b :=
  List.filter_append a b

theorem logBeside_eq_nil {j : JobId} {events : List Event} (h : ∀ e ∈ events, e.job? = some j) :
    logBeside j events = [] :=
  List.filter_eq_nil_iff.2 fun e member => by simp [h e member]

/-! ## 2. A flush that has taken its snapshot -/

namespace Flushing

theorem taken_step {t : Tracker} {refusal : Refusal} {f left : Flushing}
    (h : (f.step t refusal).progress = .running left) (now : Int64) : left ≠ .unbegun now := by
  have next_ne : ∀ {now' report readings}, next now' report readings = .running left →
      left ≠ .unbegun now := by
    intro now' report readings goesOn
    cases readings <;> cases goesOn
    exact Flushing.noConfusion
  cases f with
  | unbegun now' => exact next_ne h
  | finding now' reading rest report =>
    simp only [step] at h
    split at h <;> cases h
    exact Flushing.noConfusion
  | appending now' entry rest report =>
    obtain ⟨report', goesOn, -⟩ := appending_progress t refusal now' entry rest report
    rw [goesOn] at h
    exact next_ne h

end Flushing

namespace History

/-- Whether a job is a flush that has taken its snapshot, or is over. -/
structure Taken (j : JobId) (h : History) : Prop where
  named : j < h.system.begun
  flush : ∀ job, h.job? j = some job → ∃ f, job = .flushing f ∧ ∀ now, f ≠ .unbegun now

variable {j : JobId} {h h' : History}

theorem Taken.other (taken : h.Taken j) {m : Move} (other : m.isStepOf j = false) :
    (h.extend m).Taken j := by
  obtain ⟨job, -, named⟩ := extend_other taken.named other
  refine ⟨named, ?_⟩
  rw [job]
  exact taken.flush

/-- Whatever is left of a flush after a step has taken its snapshot. -/
theorem taken_of_own {f : Flushing} (named : j < h.system.begun)
    (found : h.job? j = some (.flushing f)) (refusal : Refusal) :
    (h.extend (.step j refusal)).Taken j := by
  obtain ⟨left, -, begun⟩ := extend_own found refusal
  refine ⟨by rw [begun]; exact named, ?_⟩
  intro job goesOn
  rw [left] at goesOn
  simp only [Job.step, Step.map] at goesOn
  cases progress : (f.step h.system.tracker refusal).progress with
  | ended result => simp [progress, Job.rest] at goesOn
  | running f' =>
    simp only [progress, Job.rest, Option.some.injEq] at goesOn
    exact ⟨f', goesOn.symm, Flushing.taken_step progress⟩

theorem Taken.extend (taken : h.Taken j) (m : Move) : (h.extend m).Taken j := by
  cases step : m.isStepOf j with
  | false => exact taken.other step
  | true =>
    obtain ⟨refusal, rfl⟩ := Move.eq_step step
    cases found : h.job? j with
    | none =>
      rw [extend_over found]
      exact taken
    | some job =>
      obtain ⟨f, rfl, -⟩ := taken.flush job found
      exact taken_of_own taken.named found refusal

theorem Taken.goOn (taken : h.Taken j) (moves : List Move) : (h.goOn moves).Taken j := by
  induction moves generalizing h with
  | nil => exact taken
  | cons m rest ih => exact ih (taken.extend m)

/-! ## 3. What everything else does -/

/-- Whether two histories only differ in what a flush has done. -/
structure Alike (j : JobId) (h h' : History) : Prop where
  system : h.system.without j = h'.system.without j
  told : logBeside j h.trace = logBeside j h'.trace

theorem Alike.refl (j : JobId) (h : History) : h.Alike j h := ⟨rfl, rfl⟩

theorem Alike.trans {h'' : History} (a : h.Alike j h') (b : h'.Alike j h'') : h.Alike j h'' :=
  ⟨a.system.trans b.system, a.told.trans b.told⟩

theorem Alike.symm (a : h.Alike j h') : h'.Alike j h :=
  ⟨a.system.symm, a.told.symm⟩

theorem Alike.registry (a : h.Alike j h') : h.registry = h'.registry :=
  System.registry_of_without a.system

theorem Alike.other (a : h.Alike j h') {m : Move} (other : m.isStepOf j = false) :
    (h.extend m).Alike j (h'.extend m) := by
  obtain ⟨system, told⟩ := System.without_act a.system (Move.ne_step other)
  refine ⟨system, ?_⟩
  rw [extend, extend, logBeside_append, logBeside_append, a.told, told]

/-- A step of the flush is noticed by nobody else. -/
theorem Taken.alike_own (taken : h.Taken j) (refusal : Refusal) :
    (h.extend (.step j refusal)).Alike j h := by
  cases found : h.job? j with
  | none =>
    rw [extend_over found]
    exact .refl j h
  | some job =>
    obtain ⟨f, rfl, past⟩ := taken.flush job found
    obtain ⟨-, trace, -⟩ := extend_own found refusal
    refine ⟨System.without_flush found past refusal, ?_⟩
    rw [trace, logBeside_append, logBeside_eq_nil fun e member => (Job.of_mem_events member).1,
      List.append_nil]

/-- Everything else goes on as if the flush had stopped at its snapshot. -/
theorem Taken.alike_goOn (taken : h.Taken j) (moves : List Move) :
    (h.goOn moves).Alike j (h.goOn (otherMoves j moves)) := by
  induction moves using List.reverseRecOn with
  | nil => exact .refl j h
  | append_singleton moves m ih =>
    rw [goOn_concat, otherMoves, List.filter_append, ← otherMoves]
    cases step : m.isStepOf j with
    | false =>
      rw [List.filter_cons_of_pos (by simp [step]), List.filter_nil, goOn_concat]
      exact ih.other step
    | true =>
      obtain ⟨refusal, rfl⟩ := Move.eq_step step
      rw [List.filter_cons_of_neg (by simp [step]), List.filter_nil, List.append_nil]
      exact ((taken.goOn moves).alike_own refusal).trans ih

end History

/-! ## 4. What the flush does -/

/-- A store answers to an entry by its kind, where the node has a record. -/
theorem Store.accepts_of_kind {store store' : Store} (kind : store.kind = store'.kind) :
    store.accepts = store'.accepts := by
  cases store with
  | memory s =>
    cases store' with
    | memory s' => rfl
    | tables s' => simp [Store.kind] at kind
  | tables s =>
    cases store' with
    | memory s' => simp [Store.kind] at kind
    | tables s' => rfl

/-- Whether two trackers have the same records for ids, in stores of one
kind. -/
structure SameRecords (ids : List DurableId) (t t' : Tracker) : Prop where
  kind : t.store.kind = t'.store.kind
  profiles : ∀ d ∈ ids, ∃ profile, t.store.profile? d = some profile ∧
    t'.store.profile? d = some profile

theorem SameRecords.of_subset {ids ids' : List DurableId} {t t' : Tracker}
    (same : SameRecords ids t t') (part : ids' ⊆ ids) : SameRecords ids' t t' :=
  ⟨same.kind, fun d member => same.profiles d (part member)⟩

theorem SameRecords.symm {ids : List DurableId} {t t' : Tracker} (same : SameRecords ids t t') :
    SameRecords ids t' t := by
  refine ⟨same.kind.symm, ?_⟩
  intro d member
  obtain ⟨profile, here, there⟩ := same.profiles d member
  exact ⟨profile, there, here⟩

namespace Flushing

variable {t t' : Tracker} {f : Flushing}

/-- The startup time of a record is that of its profile. -/
theorem startupOf_find (t : Tracker) (d : DurableId) :
    startupOf d (t.find none d) = ((t.store.profile? d).bind Profile.startup, []) := by
  simp only [Tracker.find, startupOf, Store.profile?]
  cases t.store.find d <;> rfl

theorem startupOf_agrees {d : DurableId} (same : t.store.profile? d = t'.store.profile? d)
    (refusal : Refusal) :
    startupOf d (t.find refusal d) = startupOf d (t'.find refusal d) := by
  cases refusal with
  | some cause => rfl
  | none => rw [startupOf_find, startupOf_find, same]

theorem append_agrees {entry : HistoryEntry} (same : SameRecords [entry.node] t t')
    (refusal : Refusal) :
    (t.append refusal entry).map (fun _ => ()) = (t'.append refusal entry).map fun _ => () := by
  obtain ⟨profile, here, there⟩ := same.profiles entry.node List.mem_cons_self
  have answer := Store.append_of_profile? here
  have answer' := Store.append_of_profile? there
  rw [Store.accepts_of_kind same.kind, ← answer'] at answer
  cases refusal with
  | some cause => rfl
  | none =>
    simp only [Tracker.append]
    rcases fail_or_succeed answer with ⟨cause, first, second⟩ | ⟨store, store', first, second⟩ <;>
    simp [first, second, Except.map]

/-- A flush that has taken its snapshot depends on the records that it asks
for, and on nothing else. -/
theorem step_agrees (past : ∀ now, f ≠ .unbegun now) (same : SameRecords f.ids t t')
    (j : JobId) (refusal : Refusal) :
    (f.step t refusal).progress = (f.step t' refusal).progress ∧
      f.events j t refusal = f.events j t' refusal := by
  cases f with
  | unbegun now => exact absurd rfl (past now)
  | finding now reading rest report =>
    obtain ⟨profile, here, there⟩ := same.profiles _ List.mem_cons_self
    refine ⟨?_, rfl⟩
    simp only [step, startupOf_agrees (here.trans there.symm) refusal]
    split <;> rfl
  | appending now entry rest report =>
    have node : SameRecords [entry.node] t t' := same.of_subset (by simp [ids])
    simp only [step, events]
    rcases fail_or_succeed (append_agrees node refusal) with ⟨cause, first, second⟩ |
      ⟨after, after', first, second⟩ <;>
    simp [first, second, Except.isOk, Except.toBool]

end Flushing

namespace History

variable {j : JobId} {h h' : History}

/-- Two histories in which a flush has got equally far, with the same
records to go on with. -/
structure Parallel (j : JobId) (h h' : History) : Prop where
  taken : h.Taken j
  taken' : h'.Taken j
  fresh : h.system.tracker.store.Fresh
  fresh' : h'.system.tracker.store.Fresh
  job : h.job? j = h'.job? j
  log : logOf j h.trace = logOf j h'.trace
  records : ∀ job, h.job? j = some job → SameRecords job.ids h.system.tracker h'.system.tracker

theorem fresh_extend (fresh : h.system.tracker.store.Fresh) (m : Move) :
    (h.extend m).system.tracker.store.Fresh := by
  obtain ⟨told, after⟩ := h.system.explains_act m
  rw [extend, after]
  exact told.fresh_after fresh

theorem sameRecords_extend {ids : List DurableId} {t : Tracker}
    (same : SameRecords ids h.system.tracker t) (fresh : h.system.tracker.store.Fresh) (m : Move) :
    SameRecords ids (h.extend m).system.tracker t := by
  obtain ⟨told, after⟩ := h.system.explains_act m
  constructor
  · rw [extend, after, Tracker.kind_after]
    exact same.kind
  · intro d member
    obtain ⟨profile, here, there⟩ := same.profiles d member
    exact ⟨profile, profile?_extend fresh m here, there⟩

/-- Other moves do not take the flush on. -/
theorem Parallel.other (p : h.Parallel j h') {m : Move} (other : m.isStepOf j = false) :
    (h.extend m).Parallel j h' := by
  obtain ⟨job, log, -⟩ := extend_other p.taken.named other
  refine ⟨p.taken.other other, p.taken', fresh_extend p.fresh m, p.fresh', job.trans p.job,
    log.trans p.log, ?_⟩
  intro job' found
  rw [job] at found
  exact sameRecords_extend (p.records job' found) p.fresh m

/-- Its own step takes it equally far. -/
theorem Parallel.own (p : h.Parallel j h') (refusal : Refusal) :
    (h.extend (.step j refusal)).Parallel j (h'.extend (.step j refusal)) := by
  cases found : h.job? j with
  | none =>
    rw [extend_over found, extend_over (p.job.symm.trans found)]
    exact p
  | some job =>
    obtain ⟨f, rfl, past⟩ := p.taken.flush job found
    have found' := p.job.symm.trans found
    have same := p.records _ found
    obtain ⟨progress, events⟩ := Flushing.step_agrees past same j refusal
    have left := (extend_own found refusal).1
    have left' := (extend_own found' refusal).1
    refine ⟨p.taken.extend _, p.taken'.extend _, fresh_extend p.fresh _, fresh_extend p.fresh' _,
      ?_, ?_, ?_⟩
    · rw [left, left', step_flushing, step_flushing, Step.map, Step.map, progress]
    · rw [log_own found, log_own found', p.log, events_flushing, events_flushing, events,
        Step.map, Step.map, progress]
    · intro job goesOn
      have before := sameRecords_extend same p.fresh (.step j refusal)
      have both := (sameRecords_extend before.symm p.fresh' (.step j refusal)).symm
      refine both.of_subset ?_
      intro d asked
      rw [left] at goesOn
      rcases Job.ids_step goesOn asked with old | ⟨⟨now, unbegun⟩, -⟩
      · exact old
      · exact absurd (Job.flushing.inj unbegun) (past now)

theorem Parallel.goOn (p : h.Parallel j h') (moves : List Move) :
    (h.goOn moves).Parallel j (h'.goOn (ownSteps j moves)) := by
  induction moves generalizing h h' with
  | nil => exact p
  | cons m rest ih =>
    cases step : m.isStepOf j with
    | false =>
      rw [ownSteps, List.filter_cons_of_neg (by simp [step]), ← ownSteps]
      exact ih (p.other step)
    | true =>
      obtain ⟨refusal, rfl⟩ := Move.eq_step step
      rw [ownSteps, List.filter_cons_of_pos step, ← ownSteps]
      exact ih (p.own refusal)

/-! ## 5. One run and the other -/

theorem ownSteps_append (j : JobId) (a b : List Move) :
    ownSteps j (a ++ b) = ownSteps j a ++ ownSteps j b :=
  List.filter_append a b

theorem otherMoves_append (j : JobId) (a b : List Move) :
    otherMoves j (a ++ b) = otherMoves j a ++ otherMoves j b :=
  List.filter_append a b

theorem ownSteps_ownSteps (j : JobId) (moves : List Move) :
    ownSteps j (ownSteps j moves) = ownSteps j moves := by
  simp [ownSteps]

theorem otherMoves_otherMoves (j : JobId) (moves : List Move) :
    otherMoves j (otherMoves j moves) = otherMoves j moves := by
  simp [otherMoves]

theorem ownSteps_otherMoves (j : JobId) (moves : List Move) :
    ownSteps j (otherMoves j moves) = [] := by
  simp [ownSteps, otherMoves]

theorem otherMoves_ownSteps (j : JobId) (moves : List Move) :
    otherMoves j (ownSteps j moves) = [] := by
  simp [ownSteps, otherMoves]

/-- A flush has come to the same in two histories, and so has everything
else. -/
structure SameOutcome (j : JobId) (h h' : History) : Prop where
  /-- The entries that it has attempted to append, in their order. -/
  attempts : attempts j h.trace = attempts j h'.trace
  /-- All that is told of it, the outcomes of its calls included. -/
  log : logOf j h.trace = logOf j h'.trace
  report : ∀ report, .ended j (.flushed report) ∈ h.trace ↔ .ended j (.flushed report) ∈ h'.trace
  /-- What is left of it. -/
  left : h.job? j = h'.job? j
  /-- All that is told of everything else. -/
  beside : logBeside j h.trace = logBeside j h'.trace
  registry : h.registry = h'.registry

theorem taken_snapshot {store : Store} {policy : RetryPolicy} {pre : List Move} {now : Int64}
    (begun : (run store policy pre).job? j = some (.flushing (.unbegun now)))
    (refusal : Refusal) : (run store policy (pre ++ [.step j refusal])).Taken j := by
  have named := (run_named store policy pre).lt_of_job? begun
  rw [run_append]
  exact taken_of_own named begun refusal

/-- From its snapshot on, a flush has its records. -/
theorem Taken.parallel {store : Store} (fresh : store.Fresh) {policy : RetryPolicy}
    {moves : List Move} (taken : (run store policy moves).Taken j) :
    (run store policy moves).Parallel j (run store policy moves) := by
  refine ⟨taken, taken, run_fresh fresh policy moves, run_fresh fresh policy moves, rfl, rfl, ?_⟩
  intro job found
  refine ⟨rfl, ?_⟩
  intro d asked
  obtain ⟨profile, there⟩ := run_attributed fresh policy moves j job found d asked
  exact ⟨profile, there, there⟩

/-- Let a flush take its snapshot, and let any moves follow.  It comes to
the same to let the flush first make all of its steps.  The registry is then
the same at every point of what follows, and no step of the flush touches
it. -/
theorem flush_linearizes {store : Store} (fresh : store.Fresh) (policy : RetryPolicy)
    {pre : List Move} {j : JobId} {now : Int64}
    (begun : (run store policy pre).job? j = some (.flushing (.unbegun now)))
    (refusal : Refusal) (post : List Move) :
    SameOutcome j ((run store policy (pre ++ [.step j refusal])).goOn post)
        ((run store policy (pre ++ [.step j refusal])).goOn
          (ownSteps j post ++ otherMoves j post)) ∧
      (∀ sofar later, post = sofar ++ later →
        ((run store policy (pre ++ [.step j refusal])).goOn sofar).registry =
          ((run store policy (pre ++ [.step j refusal])).goOn
            (ownSteps j post ++ otherMoves j sofar)).registry) ∧
      ∀ refusal', ((run store policy (pre ++ [.step j refusal])).goOn
          (post ++ [.step j refusal'])).registry =
        ((run store policy (pre ++ [.step j refusal])).goOn post).registry := by
  have taken := taken_snapshot begun refusal
  have parallel := taken.parallel fresh
  generalize run store policy (pre ++ [.step j refusal]) = h at taken parallel
  have alike : ∀ sofar, (h.goOn sofar).Alike j (h.goOn (ownSteps j post ++ otherMoves j sofar)) := by
    intro sofar
    have here := taken.alike_goOn sofar
    have there := taken.alike_goOn (ownSteps j post ++ otherMoves j sofar)
    rw [otherMoves_append, otherMoves_ownSteps, otherMoves_otherMoves, List.nil_append] at there
    exact here.trans there.symm
  have here := parallel.goOn post
  have there := parallel.goOn (ownSteps j post ++ otherMoves j post)
  rw [ownSteps_append, ownSteps_ownSteps, ownSteps_otherMoves, List.append_nil] at there
  have log := here.log.trans there.log.symm
  refine ⟨?_, ?_, ?_⟩
  · refine
      { attempts := congrArg (List.filterMap Event.attempt?) log
        log
        report := ?_
        left := here.job.trans there.job.symm
        beside := (alike post).told
        registry := (alike post).registry }
    intro report
    have inLog : ∀ trace, .ended j (.flushed report) ∈ logOf j trace ↔
        .ended j (.flushed report) ∈ trace := by
      intro trace
      rw [mem_logOf]
      exact and_iff_left rfl
    rw [← inLog, log, inLog]
  · intro sofar later _
    exact (alike sofar).registry
  · intro refusal'
    rw [goOn_concat]
    exact ((taken.goOn post).alike_own refusal').registry

/-- Two nodes are announced, and a flush is begun. -/
def exampleTwoNodes : List Move :=
  [.message 0 (.addedNode (exampleNode 7 none)), .message 0 (.addedNode (exampleNode 8 none)),
    .step 0 none, .step 1 none, .call (.flush 1000)]

/-- While it writes, one node is removed and the other is announced again. -/
def exampleMeanwhile : List Move :=
  [.message 1 (.removedNode 8), .step 2 none, .message 2 (.addedNode (exampleNode 7 none)),
    .step 2 (some .full), .step 3 none, .message 3 (.importedBlock 7 (exampleBlock 6200)),
    .step 2 none, .step 2 none]

theorem flush_linearizes_exampleMeanwhile :
    (attempts 2 ((run (.memory .empty) .default (exampleTwoNodes ++ [.step 2 none])).goOn
        exampleMeanwhile).trace).map (·.node) = [1, 2] ∧
      SameOutcome 2
        ((run (.memory .empty) .default (exampleTwoNodes ++ [.step 2 none])).goOn exampleMeanwhile)
        ((run (.memory .empty) .default (exampleTwoNodes ++ [.step 2 none])).goOn
          (ownSteps 2 exampleMeanwhile ++ otherMoves 2 exampleMeanwhile)) :=
  ⟨rfl, (flush_linearizes (Store.fresh_withLimit _) .default
    (show (run (.memory .empty) .default exampleTwoNodes).job? 2 =
      some (.flushing (.unbegun 1000)) from rfl) none exampleMeanwhile).1⟩

end History

end NodeWatch
