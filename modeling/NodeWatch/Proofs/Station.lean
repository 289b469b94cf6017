/-
NodeWatch.Proofs.Station — a scheduler among everything else that goes on.

A station is a system with clocks and a scheduler.  Its moves leave everything
open that a scheduler cannot choose: how much time passes and what the wall
clock shows then, when the scheduler is told to stop, what the feed and other
jobs do in between, which calls on the store are refused, and which branch goes
first where a tick and the word to stop are both there.  A call takes as long as
the scheduler is not given its turn.

What happens at a station is told in happenings: the events of the system and
of the flushes of the scheduler, and when these begin.  Together they are the
whole story of the tracker (`Station.run_explains`).  The log of a flush is a
snapshot and then one attempt for each of its readings, in their order
(`Flushing.Logged.step`).  After a snapshot averages hold only what came after
it (`samples_after_snapshot`).
-/
import NodeWatch.Proofs.Appending
import NodeWatch.Snapshot.Scheduler

namespace NodeWatch

/-! ## 1. Stations -/

/-- What happens where a scheduler runs. -/
inductive Happening where
  /-- Something happens to the tracker, and not by the scheduler. -/
  | beside (e : Event)
  /-- The scheduler is told to stop, or nobody is left who could tell it. -/
  | told
  | started (now : Nat)
  /-- The scheduler begins a flush, which is its `n`-th. -/
  | begun (n : Nat) (final : Bool) (now : Nat)
  /-- A flush of the scheduler does something, or ends. -/
  | own (e : Event)

namespace Happening

/-- What happens to the tracker. -/
def event? : Happening → Option Event
  | beside e => some e
  | own e => some e
  | _ => none

/-- Whether something is done by the scheduler. -/
def ofScheduler : Happening → Bool
  | beside _ => false
  | told => false
  | _ => true

/-- Whether a flush is begun. -/
def isBegun : Happening → Bool
  | begun _ _ _ => true
  | _ => false

end Happening

/-- What happens to the tracker, of what happens at a station. -/
def eventsOf (trace : List Happening) : List Event :=
  trace.filterMap Happening.event?

@[simp] theorem eventsOf_append (a b : List Happening) :
    eventsOf (a ++ b) = eventsOf a ++ eventsOf b :=
  List.filterMap_append

@[simp] theorem eventsOf_own (events : List Event) :
    eventsOf (events.map Happening.own) = events := by
  simp [eventsOf, List.filterMap_map, Function.comp_def, Happening.event?]

@[simp] theorem eventsOf_beside (events : List Event) :
    eventsOf (events.map Happening.beside) = events := by
  simp [eventsOf, List.filterMap_map, Function.comp_def, Happening.event?]

/-- What the next step of a scheduler tells, if it has begun `n` flushes. -/
def Scheduler.happenings (n : Nat) (clock : Clock) (preferred : Branch) (t : Tracker)
    (refusal : Refusal) (s : Scheduler) : List Happening :=
  match s.stage with
  | .unstarted => [.started clock.now]
  | .waiting ticker =>
    match s.branch? ticker clock.now preferred with
    | some .tick => [.begun (n + 1) false clock.now]
    | some .stop => [.begun (n + 1) true clock.now]
    | none => []
  | .flushing _ _ _ flush => ((Job.flushing flush).events n t refusal).map .own

/-- A system with clocks and a scheduler. -/
structure Station where
  system : System
  clock : Clock
  scheduler : Progress Scheduler (Except Overflow Report)
  /-- How many flushes the scheduler has begun. -/
  flushes : Nat

/-- What may happen next at a station. -/
inductive Station.Move where
  /-- Time passes; what the wall clock shows then. -/
  | pass (delay : Nat) (wall : Int64)
  /-- The scheduler is told to stop. -/
  | tell
  /-- A move of the system. -/
  | beside (m : NodeWatch.Move)
  /-- The scheduler makes its next step; the branch that goes first, and the
  refusal that its call on the store meets. -/
  | turn (preferred : Scheduler.Branch) (refusal : Refusal)

namespace Station

/-- A station at which nothing has happened. -/
def start (store : Store) (policy : RetryPolicy) (interval : Nat) : Station where
  system := .start store policy
  clock := ⟨0, 0⟩
  scheduler := .running (.new interval)
  flushes := 0

/-- The step of its scheduler. -/
def step (st : Station) (preferred : Scheduler.Branch) (refusal : Refusal) (s : Scheduler) :
    Step Scheduler (Except Overflow Report) :=
  s.step st.clock preferred st.system.tracker refusal

/-- What that step tells. -/
def happenings (st : Station) (preferred : Scheduler.Branch) (refusal : Refusal) (s : Scheduler) :
    List Happening :=
  s.happenings st.flushes st.clock preferred st.system.tracker refusal

/-- What a move does, and what it tells. -/
def act (st : Station) : Station.Move → Station × List Happening
  | .pass delay wall => ({ st with clock := ⟨st.clock.now + delay, wall⟩ }, [])
  | .tell =>
    match st.scheduler with
    | .running s => ({ st with scheduler := .running s.stop }, [.told])
    | .ended _ => (st, [])
  | .beside m =>
    ({ st with system := (st.system.act m).1 }, (st.system.act m).2.map .beside)
  | .turn preferred refusal =>
    match st.scheduler with
    | .running s =>
      let after := st.step preferred refusal s
      let told := st.happenings preferred refusal s
      ({ st with
          system := { st.system with tracker := after.tracker }
          scheduler := after.progress
          flushes := st.flushes + told.countP Happening.isBegun },
        told)
    | .ended _ => (st, [])

end Station

/-- A station, and what has been told of it so far. -/
structure Diary where
  station : Station
  trace : List Happening

namespace Diary

/-- The diary after another move. -/
def extend (d : Diary) (m : Station.Move) : Diary :=
  ⟨(d.station.act m).1, d.trace ++ (d.station.act m).2⟩

/-- The diary after further moves. -/
def goOn (d : Diary) (moves : List Station.Move) : Diary :=
  moves.foldl extend d

/-- The diary of a run. -/
def run (store : Store) (policy : RetryPolicy) (interval : Nat) (moves : List Station.Move) :
    Diary :=
  goOn ⟨.start store policy interval, []⟩ moves

theorem goOn_append (d : Diary) (a b : List Station.Move) : d.goOn (a ++ b) = (d.goOn a).goOn b :=
  List.foldl_append

/-- What holds at the start and is kept by every move holds at the end of
every run. -/
theorem run_invariant {P : Diary → Prop} {store : Store} {policy : RetryPolicy} {interval : Nat}
    (start : P ⟨.start store policy interval, []⟩) (extend : ∀ d m, P d → P (d.extend m))
    (moves : List Station.Move) : P (run store policy interval moves) := by
  unfold run
  generalize (⟨.start store policy interval, []⟩ : Diary) = d at start
  induction moves generalizing d with
  | nil => exact start
  | cons m rest ih => exact ih _ (extend d m start)

end Diary

/-! ## 2. The tracker of a station -/

namespace Scheduler

theorem afterFlushing_tracker (s : Scheduler) (now : Nat) (ticker : Ticker) (final : Bool)
    (begun : Nat) (flushed : Step Flushing (Except Overflow Report)) :
    (s.afterFlushing now ticker final begun flushed).tracker = flushed.tracker := by
  unfold afterFlushing
  split <;> rfl

/-- What a step of a scheduler tells is the whole story of what it does to the
tracker. -/
theorem explains (n : Nat) (clock : Clock) (preferred : Branch) (t : Tracker) (refusal : Refusal)
    (s : Scheduler) :
    Explains t (s.step clock preferred t refusal).tracker
      (eventsOf (s.happenings n clock preferred t refusal)) := by
  cases stage : s.stage with
  | unstarted =>
    simp only [step, happenings, stage]
    exact explains_nil t
  | waiting ticker =>
    simp only [step, happenings, stage]
    rcases s.branch? ticker clock.now preferred with _ | _ | _ <;> exact explains_nil t
  | flushing ticker final begun flush =>
    simp only [step, happenings, stage, afterFlushing_tracker, eventsOf_own]
    exact (Job.flushing flush).explains n t refusal

/-- A scheduler tells only of itself. -/
theorem ofScheduler_of_mem {n : Nat} {clock : Clock} {preferred : Branch} {t : Tracker}
    {refusal : Refusal} {s : Scheduler} {x : Happening}
    (told : x ∈ s.happenings n clock preferred t refusal) : x.ofScheduler = true := by
  cases stage : s.stage with
  | unstarted =>
    simp only [happenings, stage, List.mem_singleton] at told
    rw [told]
    rfl
  | waiting ticker =>
    simp only [happenings, stage] at told
    split at told <;> simp only [List.mem_singleton, List.not_mem_nil] at told <;> rw [told] <;> rfl
  | flushing ticker final begun flush =>
    simp only [happenings, stage, List.mem_map] at told
    obtain ⟨e, -, rfl⟩ := told
    rfl

end Scheduler

namespace Diary

theorem extend_explains {d : Diary} {t : Tracker}
    (told : Explains t d.station.system.tracker (eventsOf d.trace)) (m : Station.Move) :
    Explains t (d.extend m).station.system.tracker (eventsOf (d.extend m).trace) := by
  rw [extend, eventsOf_append]
  refine told.append ?_
  cases m with
  | pass delay wall => exact explains_nil _
  | tell =>
    simp only [Station.act]
    split <;> exact explains_nil _
  | beside m =>
    simp only [Station.act, eventsOf_beside]
    exact d.station.system.explains_act m
  | turn preferred refusal =>
    simp only [Station.act]
    split
    · exact Scheduler.explains _ _ _ _ _ _
    · exact explains_nil _

/-- In every run the trace is the whole story of the tracker. -/
theorem run_explains (store : Store) (policy : RetryPolicy) (interval : Nat)
    (moves : List Station.Move) :
    Explains (.ofStore store policy) (run store policy interval moves).station.system.tracker
      (eventsOf (run store policy interval moves).trace) := by
  refine run_invariant (P := fun d =>
    Explains (.ofStore store policy) d.station.system.tracker (eventsOf d.trace)) ?_ ?_ moves
  · exact explains_nil _
  · intro d m told
    exact d.extend_explains told m

end Diary

/-! ## 3. Averages after a snapshot -/

/-- The blocks that a feed id has told since the last snapshot or installation,
after an event. -/
def Event.fresh (f : FeedId) (blocks : List Block) : Event → List Block
  | .imported g b true => if g = f then blocks ++ [b] else blocks
  | .installed _ ticket node _ _ => if ticket.feedId = f then [node.block] else blocks
  | .snapped _ _ _ => []
  | _ => blocks

/-- The blocks that a feed id has told in some events, since the last snapshot
or installation in them. -/
def fresh (f : FeedId) (events : List Event) : List Block :=
  events.foldl (Event.fresh f) []

/-- Whether statistics average just some blocks. -/
structure Tracked.Samples (s : Tracked) (blocks : List Block) : Prop where
  times : s.blockTimes = .ofSamples (blocks.map Block.time)
  propagations : s.propagationTimes = .ofSamples (blocks.filterMap Block.propagation)

namespace Tracked.Samples

variable {s : Tracked} {blocks : List Block}

theorem reset (s : Tracked) : s.reset.Samples [] := ⟨rfl, rfl⟩

theorem record (h : s.Samples blocks) (b : Block) : (s.record b).Samples (blocks ++ [b]) := by
  constructor
  · simp [Tracked.record, h.times, Average.ofSamples_concat]
  · cases time : b.propagation <;>
      simp [Tracked.record, h.propagations, time, Average.ofSamples_concat]

theorem announced (node : Announcement) (d : DurableId) :
    (node.tracked d).Samples [node.block] := by
  rw [← Interval.tracked_opening]
  exact ⟨rfl, rfl⟩

theorem withGauges (h : s.Samples blocks) (gauges : Gauges) :
    (s.withGauges gauges).Samples blocks :=
  ⟨h.times, h.propagations⟩

end Tracked.Samples

/-- An event leaves in the averages what they had, and what is fresh in it. -/
theorem Tracker.samples_follow {t : Tracker} {e : Event} (fits : e.Fits t) {f : FeedId}
    {blocks : List Block} (before : ∀ s, t.registry.get? f = some s → s.Samples blocks)
    {s : Tracked} (found : (t.follow e).registry.get? f = some s) :
    s.Samples (e.fresh f blocks) := by
  rw [get?_follow fits] at found
  cases e with
  | imported g b known =>
    simp only [Event.statistics] at found
    by_cases own : g = f
    · subst own
      rw [if_pos rfl, Option.map_eq_some_iff] at found
      obtain ⟨s, here, rfl⟩ := found
      have seen : known = true := by
        rw [fits, here]
        rfl
      subst seen
      simpa [Event.fresh] using (before s here).record b
    · rw [if_neg own] at found
      cases known <;> simpa [Event.fresh, own] using before s found
  | gauged g gauges known =>
    simp only [Event.statistics] at found
    by_cases own : g = f
    · rw [if_pos own, Option.map_eq_some_iff] at found
      obtain ⟨s, here, rfl⟩ := found
      exact (before s here).withGauges gauges
    · rw [if_neg own] at found
      exact before s found
  | removed g previous =>
    simp only [Event.statistics] at found
    by_cases own : g = f
    · rw [if_pos own] at found
      cases found
    · rw [if_neg own] at found
      exact before s found
  | installed j ticket node id previous =>
    simp only [Event.statistics] at found
    by_cases own : ticket.feedId = f
    · rw [if_pos own] at found
      cases found
      simpa [Event.fresh, own] using Tracked.Samples.announced node id
    · rw [if_neg own] at found
      simpa [Event.fresh, own] using before s found
  | snapped j now readings =>
    obtain ⟨s, -, rfl⟩ := Option.map_eq_some_iff.1 found
    exact .reset s
  | _ => exact before s found

/-- After a snapshot the averages hold what has come in since.  By induction
from the right: what the last event adds, it adds to what is there. -/
theorem samples_after_snapshot {t : Tracker} {j : JobId} {now : Int64} {readings : List Reading}
    {events : List Event} (told : Tells t (.snapped j now readings :: events)) {f : FeedId}
    {s : Tracked}
    (found : (t.after (.snapped j now readings :: events)).registry.get? f = some s) :
    s.Samples (fresh f events) := by
  induction events using List.reverseRecOn generalizing s with
  | nil =>
    have reset := (Tracker.get?_follow told.1 f).symm.trans found
    obtain ⟨s, -, rfl⟩ := Option.map_eq_some_iff.1 reset
    exact .reset s
  | append_singleton events e ih =>
    rw [← List.cons_append] at told found
    obtain ⟨told, fits, -⟩ := tells_append.1 told
    rw [Tracker.after_append] at found
    rw [fresh, List.foldl_append]
    exact Tracker.samples_follow fits (fun s here => ih told here) found

/-! ## 4. The log of a flush -/

/-- Whether an event is the attempt of a flush to append the entry of a
reading. -/
def Tried (n : JobId) (wall : Int64) (reading : Reading) (e : Event) : Prop :=
  ∃ entry done, e = .appended n entry done ∧ Entered wall reading entry

namespace Flushing

/-- The log of a flush that stands where it does: it has tried the readings
that are not left to it. -/
def Logged (n : JobId) (log : List Event) : Flushing → Prop
  | .unbegun _ => log = []
  | .finding wall reading rest _ =>
    ∃ done tries, log = .snapped n wall (done ++ reading :: rest) :: tries ∧
      List.Forall₂ (Tried n wall) done tries
  | .appending wall entry rest _ =>
    ∃ done reading tries, log = .snapped n wall (done ++ reading :: rest) :: tries ∧
      List.Forall₂ (Tried n wall) done tries ∧ Entered wall reading entry

/-- The log of a flush that has ended: it has tried all its readings, or it has
been lost at the first one whose uptime does not fit. -/
def LoggedEnd (n : JobId) (log : List Event) : Except Overflow Report → Prop
  | .ok _ => ∃ wall readings tries, log = .snapped n wall readings :: tries ∧
      List.Forall₂ (Tried n wall) readings tries
  | .error cause => cause = .subtract ∧ ∃ wall done reading rest tries,
      log = .snapped n wall (done ++ reading :: rest) :: tries ∧
        List.Forall₂ (Tried n wall) done tries ∧
        ∃ startup, reading.toEntry wall startup = .error .subtract

/-- The log of a flush, wherever it stands. -/
def LoggedAt (n : JobId) (log : List Event) : Progress Flushing (Except Overflow Report) → Prop
  | .running flush => flush.Logged n log
  | .ended result => LoggedEnd n log result

theorem logged_next {n : JobId} {wall : Int64} {report : Report} {done rest : List Reading}
    {tries : List Event} (tried : List.Forall₂ (Tried n wall) done tries) :
    LoggedAt n (.snapped n wall (done ++ rest) :: tries) (next wall report rest) := by
  cases rest with
  | nil => exact ⟨wall, _, tries, rfl, by simpa using tried⟩
  | cons reading rest => exact ⟨done, tries, rfl, tried⟩

/-- A step of a flush goes on with its log. -/
theorem Logged.step {n : JobId} {log : List Event} {flush : Flushing} (logged : flush.Logged n log)
    (t : Tracker) (refusal : Refusal) :
    LoggedAt n (log ++ flush.events n t refusal) (flush.step t refusal).progress := by
  cases flush with
  | unbegun wall =>
    obtain rfl : log = [] := logged
    have none : List.Forall₂ (Tried n wall) [] [] := .nil
    exact logged_next none
  | finding wall reading rest report =>
    obtain ⟨done, tries, rfl, tried⟩ := logged
    simp only [events, List.append_nil, Flushing.step]
    generalize startupOf reading.values.durableId
      (t.find refusal reading.values.durableId) = found
    cases made : reading.toEntry wall found.1 with
    | ok entry => exact ⟨done, reading, tries, rfl, tried, found.1, made⟩
    | error cause =>
      obtain rfl := Reading.toEntry_error made
      exact ⟨rfl, wall, done, reading, rest, tries, rfl, tried, found.1, made⟩
  | appending wall entry rest report =>
    obtain ⟨done, reading, tries, rfl, tried, entered⟩ := logged
    obtain ⟨report', goesOn, -⟩ := appending_progress t refusal wall entry rest report
    have triedMore : List.Forall₂ (Tried n wall) (done ++ [reading])
        (tries ++ (appending wall entry rest report).events n t refusal) :=
      List.rel_append tried (.cons ⟨entry, _, rfl, entered⟩ .nil)
    rw [goesOn, List.append_cons, List.cons_append]
    exact logged_next triedMore

end Flushing

end NodeWatch
