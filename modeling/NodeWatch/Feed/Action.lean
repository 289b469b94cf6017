/-
NodeWatch.Feed.Action — the action codes of the telemetry feed.

Every entry of a frame begins with a code.  The 22 known actions have the
codes 0 to 21, in the order in which they are declared here.
-/
import NodeWatch.Text.Numeral

namespace NodeWatch

/-- The known actions, in the order of their codes. -/
inductive Action where
  | feedVersion
  | bestBlock
  | bestFinalized
  | addedNode
  | removedNode
  | locatedNode
  | importedBlock
  | finalizedBlock
  | nodeStats
  | nodeHardware
  | timeSync
  | addedChain
  | removedChain
  | subscribedTo
  | unsubscribedFrom
  | pong
  | afgFinalized
  | afgReceivedPrevote
  | afgReceivedPrecommit
  | afgAuthoritySet
  | staleNode
  | nodeIO
  deriving DecidableEq, Repr

namespace Action

/-- Every action, at the place of its code. -/
def all : List Action :=
  [ .feedVersion, .bestBlock, .bestFinalized, .addedNode, .removedNode, .locatedNode,
    .importedBlock, .finalizedBlock, .nodeStats, .nodeHardware, .timeSync, .addedChain,
    .removedChain, .subscribedTo, .unsubscribedFrom, .pong, .afgFinalized,
    .afgReceivedPrevote, .afgReceivedPrecommit, .afgAuthoritySet, .staleNode, .nodeIO ]

/-- The action with a code. -/
def ofCode? (code : UInt64) : Option Action :=
  all[code.toNat]?

/-- The code of an action. -/
def code (a : Action) : UInt64 :=
  UInt64.ofNat a.ctorIdx

/-- The name of an action. -/
def name : Action → String
  | .feedVersion => "FeedVersion"
  | .bestBlock => "BestBlock"
  | .bestFinalized => "BestFinalized"
  | .addedNode => "AddedNode"
  | .removedNode => "RemovedNode"
  | .locatedNode => "LocatedNode"
  | .importedBlock => "ImportedBlock"
  | .finalizedBlock => "FinalizedBlock"
  | .nodeStats => "NodeStats"
  | .nodeHardware => "NodeHardware"
  | .timeSync => "TimeSync"
  | .addedChain => "AddedChain"
  | .removedChain => "RemovedChain"
  | .subscribedTo => "SubscribedTo"
  | .unsubscribedFrom => "UnsubscribedFrom"
  | .pong => "Pong"
  | .afgFinalized => "AfgFinalized"
  | .afgReceivedPrevote => "AfgReceivedPrevote"
  | .afgReceivedPrecommit => "AfgReceivedPrecommit"
  | .afgAuthoritySet => "AfgAuthoritySet"
  | .staleNode => "StaleNode"
  | .nodeIO => "NodeIO"

theorem ofCode?_code (a : Action) : ofCode? a.code = some a := by
  cases a <;> rfl

end Action

end NodeWatch
