/-
NodeWatch.Tracker.Registry — the nodes that are tracked, under feed ids.

A node is tracked once its record has been created, which takes time.
So an announcement takes a ticket first, and the node is installed later
with that ticket.  Only the latest ticket of a feed id is current: a
newer announcement replaces it and a removal takes it away, so a record
that is created late never brings a node back.

A snapshot reads every tracked node and empties its two averages in the
same step.  A block that comes in while a snapshot is being written
belongs to the next one.
-/
import NodeWatch.Feed.Message
import NodeWatch.Table
import NodeWatch.Tracker.Average
import NodeWatch.Word

namespace NodeWatch

/-! ## 1. Tracked nodes -/

/-- The rolling statistics of one node. -/
structure Tracked where
  durableId : DurableId
  blockTimes : Average
  propagationTimes : Average
  peers : UInt32
  queued : UInt32
  bestNumber : UInt64
  bestHash : String
  deriving DecidableEq, Repr

namespace Tracked

/-- The statistics of a node that has just been announced: its block is
the first sample. -/
def ofAnnouncement (durableId : DurableId) (gauges : Gauges) (block : Block) : Tracked where
  durableId
  blockTimes := .ofSample block.time
  propagationTimes := .ofOption block.propagation
  peers := gauges.peers
  queued := gauges.queued
  bestNumber := block.number
  bestHash := block.hash

/-- With another block. -/
def record (s : Tracked) (block : Block) : Tracked where
  durableId := s.durableId
  blockTimes := s.blockTimes.record block.time
  propagationTimes := match block.propagation with
    | some sample => s.propagationTimes.record sample
    | none => s.propagationTimes
  peers := s.peers
  queued := s.queued
  bestNumber := block.number
  bestHash := block.hash

/-- With other gauges. -/
def withGauges (s : Tracked) (gauges : Gauges) : Tracked :=
  { s with peers := gauges.peers, queued := gauges.queued }

/-- With both averages taken. -/
def reset (s : Tracked) : Tracked :=
  { s with blockTimes := s.blockTimes.take.2, propagationTimes := s.propagationTimes.take.2 }

end Tracked

/-! ## 2. Readings -/

/-- What a snapshot reads of one node. -/
structure Reading where
  feedId : FeedId
  values : Tracked
  deriving DecidableEq, Repr

namespace Reading

/-- The order of a snapshot: by durable id, and by feed id where two
nodes have one durable id. -/
def le (a b : Reading) : Bool :=
  decide (a.values.durableId < b.values.durableId)
    || (a.values.durableId == b.values.durableId && decide (a.feedId ≤ b.feedId))

/-- The readings with `r` put in its place. -/
def insert (r : Reading) : List Reading → List Reading
  | [] => [r]
  | s :: rest => if r.le s then r :: s :: rest else s :: insert r rest

/-- The readings in order. -/
def sort (readings : List Reading) : List Reading :=
  readings.foldr insert []

/-- The history entry of a reading.  The uptime is left out if the
startup time is unknown. -/
def toEntry (r : Reading) (timestamp : Int64) (startup : Option Int64) :
    Except Overflow HistoryEntry := do
  let uptime ← startup.mapM fun startup => Word.subtract timestamp startup
  return {
    node := r.values.durableId
    timestamp
    avgBlockTime := r.values.blockTimes.mean
    avgPropagationTime := r.values.propagationTimes.mean
    peers := r.values.peers
    queued := r.values.queued
    bestNumber := r.values.bestNumber
    bestHash := r.values.bestHash
    blocks := UInt64.ofNat r.values.blockTimes.count
    uptime }

end Reading

/-! ## 3. The registry -/

/-- The right to install the node of one announcement. -/
structure Ticket where
  feedId : FeedId
  /-- The place of the announcement among all announcements.  It is kept in
  a word of 64 bits, which holds the first `2 ^ 64 - 1` of them. -/
  number : Nat
  deriving DecidableEq, Repr

/-- The tracked nodes and the announcements under way. -/
structure Registry where
  tracked : Table FeedId Tracked
  /-- The number of the current ticket of each feed id that has one. -/
  pending : Table FeedId Nat
  /-- How many tickets have been issued.  A word of 64 bits counts them; what
  it does at its end is left out. -/
  issued : Nat
  deriving DecidableEq

namespace Registry

/-- No nodes, no announcements. -/
def empty : Registry := ⟨.empty, .empty, 0⟩

instance : EmptyCollection Registry := ⟨empty⟩

instance : Inhabited Registry := ⟨empty⟩

/-- The statistics under a feed id. -/
def get? (r : Registry) (f : FeedId) : Option Tracked :=
  r.tracked.get? f

/-- The durable id under a feed id. -/
def durableId? (r : Registry) (f : FeedId) : Option DurableId :=
  (r.get? f).map Tracked.durableId

/-- Whether a feed id has a current ticket. -/
def isPending (r : Registry) (f : FeedId) : Bool :=
  r.pending.contains f

/-- The number of tracked nodes. -/
def size (r : Registry) : Nat :=
  r.tracked.size

/-- Whether a ticket is the current one of its feed id. -/
def isCurrent (r : Registry) (t : Ticket) : Bool :=
  r.pending.get? t.feedId == some t.number

/-- Issue the ticket of an announcement. -/
def issue (r : Registry) (f : FeedId) : Ticket × Registry :=
  let t : Ticket := ⟨f, r.issued + 1⟩
  (t, { r with pending := r.pending.insert f t.number, issued := t.number })

/-- Install a node, if its ticket is current; whether it was. -/
def install (r : Registry) (t : Ticket) (s : Tracked) : Bool × Registry :=
  if r.isCurrent t then
    (true, { r with pending := r.pending.erase t.feedId, tracked := r.tracked.insert t.feedId s })
  else (false, r)

/-- Give a ticket back; one that is not current is ignored. -/
def abandon (r : Registry) (t : Ticket) : Registry :=
  if r.isCurrent t then { r with pending := r.pending.erase t.feedId } else r

/-- Change the statistics under a feed id; whether there are any. -/
def modify (r : Registry) (f : FeedId) (change : Tracked → Tracked) : Bool × Registry :=
  match r.get? f with
  | some s => (true, { r with tracked := r.tracked.insert f (change s) })
  | none => (false, r)

/-- Record a block; whether its node is tracked. -/
def recordBlock (r : Registry) (f : FeedId) (block : Block) : Bool × Registry :=
  r.modify f fun s => s.record block

/-- Replace the gauges; whether their node is tracked. -/
def setGauges (r : Registry) (f : FeedId) (gauges : Gauges) : Bool × Registry :=
  r.modify f fun s => s.withGauges gauges

/-- Drop a node and its ticket; the statistics it had. -/
def remove (r : Registry) (f : FeedId) : Option Tracked × Registry :=
  (r.get? f, { r with pending := r.pending.erase f, tracked := r.tracked.erase f })

/-- Read every node in order, and empty its averages. -/
def snapshot (r : Registry) : List Reading × Registry :=
  (Reading.sort (r.tracked.entries.map fun (f, s) => ⟨f, s⟩),
    { r with tracked := r.tracked.mapValues fun _ s => s.reset })

end Registry

end NodeWatch
