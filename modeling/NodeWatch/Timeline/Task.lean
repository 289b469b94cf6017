/-
NodeWatch.Timeline.Task — what goes on on a timeline.

A task is a job or a scheduler.  How many steps it still makes is bounded
by its budget, by the readings it has left, and by the nodes that a
snapshot can find.
-/
import NodeWatch.Snapshot.Scheduler
import NodeWatch.Tracker.Job

namespace NodeWatch

/-- What goes on on a timeline. -/
inductive Task where
  | job (j : Job)
  | scheduler (s : Scheduler)
  deriving DecidableEq, Repr

namespace Task

/-- What must happen before the next step. -/
def need (policy : RetryPolicy) : Task → Need
  | .job j => j.need policy
  | .scheduler s => s.need

/-- What is told before the next step. -/
def before : Task → List Notice
  | .job j => j.before
  | .scheduler _ => []

/-- The next step.  The word to stop goes before a tick that is due, so a
scheduler that never catches up with its ticks can still be stopped. -/
def step (clock : Clock) (t : Tracker) (refusal : Refusal) : Task → Step Task Job.Result
  | .job j => (j.step t refusal).map .job id
  | .scheduler s =>
    (s.step clock .stop t refusal).map .scheduler (.ofExcept .flushed)

/-- Tell a scheduler to stop; a job does not hear it. -/
def stop : Task → Task
  | .job j => .job j
  | .scheduler s => .scheduler s.stop

/-! ## Bounds -/

/-- How many steps a flush makes, if a snapshot finds at most `nodes`. -/
def flushBound (nodes : Nat) : Flushing → Nat
  | .unbegun _ => 2 * nodes + 1
  | .finding _ _ rest _ => 2 * rest.length + 2
  | .appending _ _ rest _ => 2 * rest.length + 1

/-- How many steps a task makes, if a snapshot finds at most `nodes`; for
a scheduler, up to its next wait and from there to its end. -/
def bound (nodes : Nat) : Task → Nat
  | .job (.announcing _ _) => 3
  | .job (.attempting _) => 2
  | .job (.locating l) => l.task.remaining + 3
  | .job (.flushing f) => flushBound nodes f
  | .scheduler s =>
    (Ticker.grace + 3) * (2 * nodes + 3) + match s.stage with
      | .flushing _ _ _ f => flushBound nodes f
      | _ => 1

end Task

end NodeWatch
