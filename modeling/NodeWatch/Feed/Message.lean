/-
NodeWatch.Feed.Message — what a decoded frame entry says.

Only the actions that the tracker works on have typed contents.  Any
other known action is kept by its name, an unknown one by its code.
-/
import NodeWatch.Feed.Action
import NodeWatch.Json.Value
import NodeWatch.Store.Record

namespace NodeWatch

/-- The identifier that the feed gives a node for as long as it is
announced.  It is never stored. -/
abbrev FeedId := UInt64

/-- The latest values that a node reports of itself. -/
structure Gauges where
  peers : UInt32
  /-- Transactions waiting in the node's queue. -/
  queued : UInt32
  deriving DecidableEq, Repr

/-- A block that a node has imported. -/
structure Block where
  number : UInt64
  hash : String
  /-- Milliseconds since the block before it. -/
  time : UInt64
  timestamp : UInt64
  /-- Milliseconds that the block took to reach the node. -/
  propagation : Option UInt64
  deriving DecidableEq, Repr

/-- A node that joins the feed. -/
structure Announcement where
  feedId : FeedId
  profile : Profile
  gauges : Gauges
  block : Block
  location : Option Location
  deriving DecidableEq, Repr

/-- One message of the feed. -/
inductive Message where
  | feedVersion (version : Json)
  | addedNode (node : Announcement)
  | removedNode (feedId : FeedId)
  | staleNode (feedId : FeedId)
  | locatedNode (feedId : FeedId) (location : Location)
  | importedBlock (feedId : FeedId) (block : Block)
  | nodeStats (feedId : FeedId) (gauges : Gauges)
  | subscribedTo (label : String)
  /-- The ping id that the feed sends back, as text. -/
  | pong (label : String)
  | ignored (action : Action)
  | unknown (code : UInt64)
  deriving Repr

end NodeWatch
