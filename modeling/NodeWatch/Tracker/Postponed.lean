/-
NodeWatch.Tracker.Postponed — locations that wait for their node.

A location can come before the record of its node has been created.  It
is then postponed by a fixed delay, at most a fixed number of times.
-/
import NodeWatch.Feed.Message

namespace NodeWatch

/-- How often and by how much a location is postponed. -/
structure RetryPolicy where
  /-- Milliseconds between two attempts. -/
  delay : Nat
  /-- How often a location may be postponed. -/
  maxAttempts : Nat
  deriving DecidableEq, Repr

/-- Ten times, by one second. -/
def RetryPolicy.default : RetryPolicy where
  delay := 1000
  maxAttempts := 10

/-- A location on its way to the record of its node. -/
structure Postponed where
  feedId : FeedId
  location : Location
  /-- How often it has been postponed. -/
  postponed : Nat
  maxAttempts : Nat
  deriving DecidableEq, Repr

namespace Postponed

/-- A location that has not been postponed yet. -/
def new (feedId : FeedId) (location : Location) (policy : RetryPolicy) : Postponed where
  feedId
  location
  postponed := 0
  maxAttempts := policy.maxAttempts

/-- How often the location may still be postponed. -/
def remaining (p : Postponed) : Nat :=
  p.maxAttempts - p.postponed

/-- The location for its next attempt; none if there is none left. -/
def postpone (p : Postponed) : Option Postponed :=
  if p.maxAttempts ≤ p.postponed then none else some { p with postponed := p.postponed + 1 }

end Postponed

end NodeWatch
