/-
NodeWatch.Snapshot.Scheduler — a flush every interval, and a last one.

The scheduler waits for the next tick or for the word to stop.  On a tick
it flushes, and only when that flush has ended does it wait again; ticks
that come during a flush are missed, except that one of them is made up
for at once.  The word to stop is heard only between flushes: then there
is one more flush, and with it the scheduler ends.  So no two flushes of
a scheduler are under way at once, and none is cut short.

If a tick is due when the scheduler is told to stop, either may go first.
Which one does is given from outside.
-/
import NodeWatch.Snapshot.Flushing
import NodeWatch.Ticker

namespace NodeWatch

/-- What the clocks show. -/
structure Clock where
  /-- Milliseconds since the beginning. -/
  now : Nat
  /-- Epoch milliseconds. -/
  wall : Int64
  deriving DecidableEq, Repr

namespace Scheduler

/-- What ends the wait between two flushes. -/
inductive Branch where
  | tick
  | stop
  deriving DecidableEq, Repr

/-- Where a scheduler stands. -/
inductive Stage where
  | unstarted
  | waiting (ticker : Ticker)
  /-- A flush, begun at an instant, is under way. -/
  | flushing (ticker : Ticker) (final : Bool) (begun : Nat) (flush : Flushing)
  deriving DecidableEq, Repr

end Scheduler

/-- A scheduler. -/
structure Scheduler where
  /-- Milliseconds between two flushes. -/
  interval : Nat
  /-- Whether it has been told to stop. -/
  stopping : Bool
  stage : Scheduler.Stage
  deriving DecidableEq, Repr

namespace Scheduler

/-- A scheduler that has not been started. -/
def new (interval : Nat) : Scheduler := ⟨interval, false, .unstarted⟩

/-- Tell it to stop. -/
def stop (s : Scheduler) : Scheduler := { s with stopping := true }

/-- What must happen before the next step. -/
def need (s : Scheduler) : Need :=
  match s.stage with
  | .unstarted => .nothing
  | .waiting ticker => if s.stopping then .nothing else .instant ticker.deadline
  | .flushing _ _ _ flush => flush.need

/-- What ends the wait now, if anything does. -/
def branch? (s : Scheduler) (ticker : Ticker) (now : Nat) (preferred : Branch) : Option Branch :=
  match ticker.isDue now, s.stopping with
  | true, true => some preferred
  | true, false => some .tick
  | false, true => some .stop
  | false, false => none

/-- How it goes on after a step of a flush. -/
def afterFlushing (s : Scheduler) (now : Nat) (ticker : Ticker) (final : Bool) (begun : Nat)
    (flushed : Step Flushing (Except Overflow Report)) :
    Step Scheduler (Except Overflow Report) :=
  match flushed.progress with
  | .running flush =>
    { flushed with progress := .running { s with stage := .flushing ticker final begun flush } }
  | .ended (.error cause) => { flushed with progress := .ended (.error cause) }
  | .ended (.ok report) =>
    { flushed with
      progress :=
        if final then .ended (.ok report) else .running { s with stage := .waiting ticker }
      notices := flushed.notices ++ [.flushed final report (now - begun)] }

/-- The next step.  The result is the report of the last flush. -/
def step (clock : Clock) (preferred : Branch) (t : Tracker) (refusal : Refusal) (s : Scheduler) :
    Step Scheduler (Except Overflow Report) :=
  match s.stage with
  | .unstarted =>
    { tracker := t
      progress := .running { s with stage := .waiting (.start clock.now s.interval) }
      notices := [.schedulerStarted s.interval] }
  | .waiting ticker =>
    let flush := Flushing.unbegun clock.wall
    { tracker := t
      progress := .running <| match s.branch? ticker clock.now preferred with
        | some .tick =>
          { s with stage := .flushing (ticker.tick .skip clock.now) false clock.now flush }
        | some .stop => { s with stage := .flushing ticker true clock.now flush }
        | none => s }
  | .flushing ticker final begun flush =>
    s.afterFlushing clock.now ticker final begun (flush.step t refusal)

end Scheduler

end NodeWatch
