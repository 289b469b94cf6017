/-
NodeWatch.Notice — what is told to whoever runs the tracker.

A notice is an event with a level and a text.  All that the session, its
tracker, the jobs and the scheduler tell is here, at every level: who runs
the tracker chooses how much of it is shown.  What happens once per block
is told only where the block is dropped, and at the lowest level.

What is told before there is a session is not here: what a configuration
warns of is with the configuration, and the greetings of the process, its
farewell and its report of the last flush are left out with the process.
-/
import NodeWatch.Feed.Decode
import NodeWatch.Snapshot.Report
import NodeWatch.Store.Error
import NodeWatch.Text.Utf8

namespace NodeWatch

/-- How much a notice matters. -/
inductive Level where
  | error
  | warn
  | info
  | debug
  | trace
  deriving DecidableEq, Repr

/-- The name of a level. -/
def Level.name : Level → String
  | .error => "ERROR"
  | .warn => "WARN"
  | .info => "INFO"
  | .debug => "DEBUG"
  | .trace => "TRACE"

/-- What is told to whoever runs the tracker. -/
inductive Notice where
  | connecting (uri : String)
  | connected
  | subscribing (chain : String)
  | subscribed (label : String)
  | feedVersion (version : Json)
  | firstNode (name : String)
  | frameSkipped (cause : DecodeError)
  | messageSkipped (cause : DecodeError)
  | binarySkipped (fault : Text.Utf8Fault)
  | pinging (id : Nat)
  /-- A pong has been taken, so many milliseconds after its ping. -/
  | pongTaken (label : String) (roundTrip : Nat)
  | nodeLeft (feedId : FeedId)
  | nodeStale (feedId : FeedId)
  | blockDropped (feedId : FeedId) (number : UInt64)
  | gaugesDropped (feedId : FeedId)
  | actionIgnored (action : Action)
  | codeIgnored (code : UInt64)
  | adding (feedId : FeedId) (name : String)
  /-- A node has been installed over the one that had the id `previous`. -/
  | reannounced (feedId : FeedId) (previous : DurableId)
  | notTracked (feedId : FeedId) (id : DurableId)
  | added (feedId : FeedId) (name : String) (id : DurableId)
  | placed (feedId : FeedId) (id : DurableId) (city : String)
  /-- A location is put off by so many milliseconds, with so many attempts
  left. -/
  | putOff (feedId : FeedId) (delay remaining : Nat)
  | addFailed (feedId : FeedId) (name : String) (cause : StoreError)
  | locationFailed (feedId : FeedId) (cause : StoreError)
  | locationAbandoned (feedId : FeedId) (postponed : Nat)
  | startupUnknown (id : DurableId) (cause : StoreError)
  | appendFailed (id : DurableId) (cause : StoreError)
  /-- The scheduler runs, with an interval in milliseconds. -/
  | schedulerStarted (interval : Nat)
  /-- A flush has ended, after so many milliseconds. -/
  | flushed (final : Bool) (report : Report) (elapsed : Nat)
  /-- The database file is open. -/
  | databaseOpened (journal : String)

namespace Notice

/-- The level of a notice. -/
def level : Notice → Level
  | .connecting _ => .info
  | .connected => .info
  | .subscribing _ => .info
  | .subscribed _ => .info
  | .feedVersion _ => .info
  | .firstNode _ => .info
  | .frameSkipped _ => .warn
  | .messageSkipped _ => .warn
  | .binarySkipped _ => .warn
  | .pinging _ => .debug
  | .pongTaken _ _ => .debug
  | .nodeLeft _ => .debug
  | .nodeStale _ => .debug
  | .blockDropped _ _ => .trace
  | .gaugesDropped _ => .trace
  | .actionIgnored _ => .trace
  | .codeIgnored _ => .trace
  | .adding _ _ => .debug
  | .reannounced _ _ => .debug
  | .notTracked _ _ => .debug
  | .added _ _ _ => .debug
  | .placed _ _ _ => .debug
  | .putOff _ _ _ => .debug
  | .addFailed _ _ _ => .error
  | .locationFailed _ _ => .error
  | .locationAbandoned _ _ => .error
  | .startupUnknown _ _ => .warn
  | .appendFailed _ _ => .error
  | .schedulerStarted _ => .info
  | .flushed _ _ _ => .info
  | .databaseOpened _ => .info

/-- The text of a feed id. -/
def idText (feedId : FeedId) : String :=
  Text.ofNat feedId.toNat

/-- The text of a notice. -/
def text : Notice → String
  | .connecting uri => "🔗 Connecting to " ++ uri
  | .connected => "✅ Connected to telemetry feed"
  | .subscribing chain => "📨 Subscribing to chain '" ++ chain ++ "'"
  | .subscribed label => "✅ Subscribed to " ++ label
  | .feedVersion version => "📡 Feed version: " ++ version.compact
  | .firstNode name => "🟢 First node announced: " ++ name
  | .frameSkipped cause => "⚠️  Skipping feed frame: " ++ cause.message
  | .messageSkipped cause => "⚠️  Skipping feed message: " ++ cause.message
  | .binarySkipped fault => "⚠️  Skipping non UTF-8 binary frame: " ++ fault.message
  | .pinging id => "Sending ping " ++ Text.ofNat id
  | .pongTaken label roundTrip =>
    "Pong " ++ label ++ " received, took: " ++ Text.ofNat roundTrip ++ "ms"
  | .nodeLeft feedId => "Node " ++ idText feedId ++ " left the feed"
  | .nodeStale feedId => "Node " ++ idText feedId ++ " is stale"
  | .blockDropped feedId number =>
    "Dropping block " ++ Text.ofNat number.toNat ++ " for unknown node " ++ idText feedId
  | .gaugesDropped feedId => "Dropping stats for unknown node " ++ idText feedId
  | .actionIgnored action => "Ignoring " ++ action.name
  | .codeIgnored code => "Ignoring unknown action " ++ Text.ofNat code.toNat
  | .adding feedId name =>
    "Adding new node to store (feed id: " ++ idText feedId ++ ", name: " ++ name ++ ")..."
  | .reannounced feedId previous =>
    "Feed id " ++ idText feedId ++ " re-announced, replacing stats of durable id "
      ++ Text.ofInt previous.toInt
  | .notTracked feedId id =>
    "Node " ++ idText feedId ++ " left the feed before its record " ++ Text.ofInt id.toInt
      ++ " was written, not tracking"
  | .added feedId name id =>
    "✅ New node added (feed id: " ++ idText feedId ++ ", name: " ++ name ++ ", durable id: "
      ++ Text.ofInt id.toInt ++ ")"
  | .placed feedId id city =>
    "📍 Updated node location " ++ idText feedId ++ "/" ++ Text.ofInt id.toInt ++ " - " ++ city
  | .putOff feedId delay remaining =>
    "Node " ++ idText feedId ++ " not yet in store, postponing location update by "
      ++ Text.ofNat delay ++ "ms (" ++ Text.ofNat remaining ++ " left)"
  | .addFailed feedId name cause =>
    "❌ Failed to add node " ++ idText feedId ++ " (" ++ name ++ "): " ++ cause.message
  | .locationFailed feedId cause =>
    "❌ Failed to store location for feed id " ++ idText feedId ++ ": " ++ cause.message
  | .locationAbandoned feedId postponed =>
    "❌ Postponed location update failed " ++ Text.ofNat postponed
      ++ " times in a row for feed id " ++ idText feedId ++ ", giving up"
  | .startupUnknown id cause =>
    "⚠️  Could not load node " ++ Text.ofInt id.toInt ++ " for uptime: " ++ cause.message
  | .appendFailed id cause =>
    "❌ Failed to append history for node " ++ Text.ofInt id.toInt ++ ": " ++ cause.message
  | .schedulerStarted interval =>
    "⏰ Starting snapshot scheduler (interval: " ++ Text.ofNat (interval / 1000) ++ "s)"
  | .flushed final report elapsed =>
    "📊 " ++ (if final then "Final snapshot complete" else "Snapshot complete") ++ ": "
      ++ Text.ofNat report.tracked ++ " nodes, " ++ Text.ofNat report.written ++ " written, "
      ++ Text.ofNat report.failed ++ " failed | " ++ Text.ofNat elapsed ++ "ms"
  | .databaseOpened journal =>
    "✅ SQLite store initialized (journal_mode=" ++ journal ++ ")"

end Notice

end NodeWatch
