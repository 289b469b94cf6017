/-
NodeWatch.Timeline.Connection — a client on a timeline.

A connection holds the timers of a client beside its timeline.  Whenever
something has been handled, the tasks go on until all of them wait.  When
the clock is moved it moves in one go, so a timer that is late fires at
the new time.
-/
import NodeWatch.Timeline.Basic

namespace NodeWatch

/-- A client that has connected to the feed. -/
structure Connection where
  config : FeedConfig
  timeline : Timeline
  timers : Client.Timers
  /-- What has ended the run of the client. -/
  fault : Option FeedError

namespace Connection

/-- Connect: the commands that are sent, and the connection. -/
def establish (config : FeedConfig) (timeline : Timeline) : List String × Connection :=
  let (r, timeline) := timeline.react (Client.connect config)
  (r.sent, { config, timeline, timers := .start config timeline.now, fault := none })

/-- Handle events one after the other: the commands that are sent. -/
def handle (c : Connection) (events : List FeedEvent) : List String × Connection :=
  let (r, timeline) := c.timeline.react fun r =>
    Client.run c.config r (events.map fun event => (c.timeline.now, event))
  (r.sent, { c with timeline := timeline.settle, fault := r.fault })

/-- Let `delay` milliseconds pass: the commands that are sent. -/
def wait (c : Connection) (delay : Nat) : List String × Connection :=
  let timeline := c.timeline.jump delay
  let (events, timers) := c.timers.due timeline.now
  { c with timeline, timers }.handle events

end Connection

end NodeWatch
