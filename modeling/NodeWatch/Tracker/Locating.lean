/-
NodeWatch.Tracker.Locating — from a location to the record of its node.

One attempt looks the node up in the registry and, if it is tracked, sets
the location of its record.  If it is not, there may be another attempt
after a pause, for as long as the budget of the location lasts.  A store
that refuses the location ends the work at once.
-/
import NodeWatch.Tracker.Basic

namespace NodeWatch

/-- Where the work on a location stands. -/
inductive Locating where
  /-- The node is to be looked up. -/
  | looking (task : Postponed)
  /-- The node is known, and the location of its record is being set. -/
  | placing (task : Postponed) (id : DurableId)
  deriving DecidableEq, Repr

/-- What a single attempt comes to. -/
inductive LocationUpdate where
  | applied (id : DurableId)
  | nodeUnknown
  deriving DecidableEq, Repr

/-- What all attempts together come to. -/
inductive LocationOutcome where
  | applied (id : DurableId) (postponed : Nat)
  /-- The node has not become known within the budget. -/
  | abandoned (postponed : Nat)
  /-- The store has refused the location. -/
  | failed
  deriving DecidableEq, Repr

namespace Locating

/-- The location and what is left of its budget. -/
def task : Locating → Postponed
  | .looking task => task
  | .placing task _ => task

/-- What must happen before the next step: each attempt but the first
comes after a pause. -/
def need (policy : RetryPolicy) : Locating → Need
  | .looking task => if task.postponed = 0 then .nothing else .pause policy.delay
  | .placing _ _ => .call .setLocation

/-- The next step of a single attempt. -/
def attempt (t : Tracker) (refusal : Refusal) :
    Locating → Step Locating (Except StoreError LocationUpdate)
  | .looking task =>
    match t.registry.durableId? task.feedId with
    | some id => { tracker := t, progress := .running (.placing task id) }
    | none => { tracker := t, progress := .ended (.ok .nodeUnknown) }
  | .placing task id =>
    match t.setLocation refusal id task.location with
    | .error cause => { tracker := t, progress := .ended (.error cause) }
    | .ok t => { tracker := t, progress := .ended (.ok (.applied id)) }

/-- How it goes on after an attempt that found no node. -/
def postpone (t : Tracker) (task : Postponed) : Step Locating LocationOutcome :=
  match task.postpone with
  | some next =>
    { tracker := t
      progress := .running (.looking next)
      notices := [.putOff task.feedId t.policy.delay next.remaining] }
  | none =>
    { tracker := t
      progress := .ended (.abandoned task.postponed)
      notices := [.locationAbandoned task.feedId task.postponed] }

/-- The next step of a row of attempts. -/
def step (t : Tracker) (refusal : Refusal) (l : Locating) : Step Locating LocationOutcome :=
  let after := l.attempt t refusal
  match after.progress with
  | .running l => { tracker := after.tracker, progress := .running l }
  | .ended (.ok (.applied id)) =>
    { tracker := after.tracker
      progress := .ended (.applied id l.task.postponed)
      notices := [.placed l.task.feedId id l.task.location.city] }
  | .ended (.ok .nodeUnknown) => postpone after.tracker l.task
  | .ended (.error cause) =>
    { tracker := after.tracker
      progress := .ended .failed
      notices := [.locationFailed l.task.feedId cause] }

end Locating

end NodeWatch
