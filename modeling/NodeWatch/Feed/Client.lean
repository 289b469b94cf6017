/-
NodeWatch.Feed.Client — from the events of a connection to its end.

A client subscribes and then handles one event after the other: what
comes in on the socket, the ticks of its pings, and the end of the time
in which a first node must be announced.  The first fault ends the run,
and nothing after it has an effect.

A binary message that is text counts as that text.  One that is not, and
the control frames of the socket, lead to nothing.  The time for the
first node matters only while none has been announced.

The socket opens here, and it takes every command.  Where it does not,
the run ends at once, with `FeedError.connect` or `FeedError.send`.
-/
import NodeWatch.Config
import NodeWatch.Feed.Session
import NodeWatch.Ticker

namespace NodeWatch

/-- What a client has to know. -/
structure FeedConfig where
  uri : String
  chain : String
  /-- Milliseconds between two pings. -/
  pingInterval : Nat
  /-- Milliseconds in which a first node must be announced. -/
  firstNodeTimeout : Nat
  deriving DecidableEq, Repr

/-- What the configuration says about the feed. -/
def Config.feed (c : Config) : FeedConfig where
  uri := c.feedUri
  chain := c.chain
  pingInterval := c.pingInterval.toNat
  firstNodeTimeout := c.firstNodeTimeout.toNat

/-- What a client reacts to. -/
inductive FeedEvent where
  | text (frame : String)
  | binary (bytes : ByteArray)
  /-- The feed closes the connection, with a code and a reason if it says
  why. -/
  | close (cause : Option (Nat × String))
  /-- Another control frame. -/
  | control
  | broken (reason : String)
  /-- The socket has ended without a word. -/
  | ended
  | pingDue
  /-- The time for the first node is over. -/
  | firstNodeDue

namespace Client

/-- Whether a close code may come over a socket.  The others are reserved
for what an end of the connection means without one.  This is assumed of
the library that reads the socket. -/
def isWireCode (code : Nat) : Bool :=
  (1000 ≤ code && code ≤ 1003) || (1007 ≤ code && code ≤ 1013) || (3000 ≤ code && code ≤ 4999)

/-- The reason with which a close of the feed is handed on.  The client takes
it as it is; that it is replaced where the code is reserved is assumed of
the library that reads the socket. -/
def closeReason (code : Nat) (reason : String) : String :=
  if isWireCode code then reason else "Protocol violation"

/-- What connecting to the feed leads to. -/
def connect (config : FeedConfig) (r : Reaction) : Reaction :=
  let r := (r.notice (.connecting config.uri)).notice .connected
  (r.send (Command.subscribe config.chain)).notice (.subscribing config.chain)

/-- What an event leads to that comes before any fault. -/
def handle (config : FeedConfig) (now : Nat) (r : Reaction) : FeedEvent → Reaction
  | .text frame => r.takeFrame now frame
  | .binary bytes =>
    match Text.decodeUtf8 bytes with
    | .ok frame => r.takeFrame now frame
    | .error fault => r.notice (.binarySkipped fault)
  | .close cause =>
    { r with fault := some (.remoteClosed (cause.map fun (code, reason) => closeReason code reason)) }
  | .control => r
  | .broken reason => { r with fault := some (.transport reason) }
  | .ended => { r with fault := some (.remoteClosed none) }
  | .pingDue => r.ping now
  | .firstNodeDue =>
    if r.session.awaitingFirstNode then
      { r with fault := some (.noNodesAnnounced (config.firstNodeTimeout * 1000)) }
    else r

/-- What an event leads to at the instant `now`.  After a fault it leads
to nothing. -/
def react (config : FeedConfig) (now : Nat) (r : Reaction) (event : FeedEvent) : Reaction :=
  if r.fault.isSome then r else handle config now r event

/-- What a row of events, each at its instant, leads to. -/
def run (config : FeedConfig) (r : Reaction) (events : List (Nat × FeedEvent)) : Reaction :=
  events.foldl (fun r event => react config event.1 r event.2) r

/-! ## The timers of a client -/

/-- When the pings and the end of the time for the first node are due. -/
structure Timers where
  pings : Ticker
  firstNode : Nat
  deriving DecidableEq, Repr

namespace Timers

/-- The timers of a client that has connected at `now`. -/
def start (config : FeedConfig) (now : Nat) : Timers :=
  ⟨.start now config.pingInterval, now + config.firstNodeTimeout⟩

/-- The ticks that are due at `now`, and the ticker after them.  Only a
tick that is hardly late can be followed at once by another. -/
def ticks (pings : Ticker) (now : Nat) : List FeedEvent × Ticker :=
  (List.range (Ticker.grace + 1)).foldl (fun (events, pings) _ =>
    if pings.isDue now then (events ++ [.pingDue], pings.tick .delay now) else (events, pings))
    ([], pings)

/-- The events that are due at `now`, and the timers after them. -/
def due (t : Timers) (now : Nat) : List FeedEvent × Timers :=
  let (events, pings) := ticks t.pings now
  (if t.firstNode ≤ now then events ++ [.firstNodeDue] else events, { t with pings })

end Timers

end Client

end NodeWatch
