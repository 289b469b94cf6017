/-
NodeWatch.Store.Record — what a store keeps: node records and history.

A record is made once, from the profile of an announced node, under a
durable id that the store chooses; only its location changes afterwards.
A history entry is one interval of one node and is never changed.
-/
import NodeWatch.Binary64.Basic

namespace NodeWatch

/-- The identifier that a store gives a record. -/
abbrev DurableId := Int64

/-- Where a node is. -/
structure Location where
  lat : Binary64
  lng : Binary64
  city : String
  deriving DecidableEq, Repr

/-- What a node tells about itself when it is announced. -/
structure Profile where
  name : String
  implementation : String
  version : String
  address : Option String
  networkId : Option String
  /-- When the node was started, in epoch milliseconds. -/
  startup : Option Int64
  deriving DecidableEq, Repr

/-- The durable record of a node. -/
structure Record where
  id : DurableId
  profile : Profile
  location : Option Location
  deriving DecidableEq, Repr

/-- One interval of one node. -/
structure HistoryEntry where
  node : DurableId
  /-- When the interval was closed, in epoch milliseconds. -/
  timestamp : Int64
  avgBlockTime : Option UInt64
  avgPropagationTime : Option UInt64
  peers : UInt32
  queued : UInt32
  bestNumber : UInt64
  bestHash : String
  /-- The number of block times in the interval. -/
  blocks : UInt64
  /-- The time since the node was started, if that is known. -/
  uptime : Option Int64
  deriving DecidableEq, Repr

end NodeWatch
