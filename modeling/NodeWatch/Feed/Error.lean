/-
NodeWatch.Feed.Error — what ends a session with the feed.

Every one of these is fatal: the feed announces all its nodes again when
a client comes back, so nothing is mended in place.
-/
import NodeWatch.Text.Numeral

namespace NodeWatch

/-- What ends a session with the feed. -/
inductive FeedError where
  | connect (reason : String)
  | transport (reason : String)
  /-- The feed has closed the connection, with a reason if it gave one. -/
  | remoteClosed (reason : Option String)
  | send (reason : String)
  /-- A pong that does not answer the outstanding ping. -/
  | unexpectedPong (expected : Option Nat) (received : String)
  /-- A ping is due while this one is unanswered. -/
  | missedPong (id : Nat)
  /-- No node was announced in time; the time is in microseconds. -/
  | noNodesAnnounced (timeout : Nat)
  deriving DecidableEq, Repr

/-- The text under which an error is reported. -/
def FeedError.message : FeedError → String
  | .connect reason => "Connection failed: " ++ reason
  | .transport reason => "Connection error: " ++ reason
  | .remoteClosed (some reason) => "Feed closed the connection: " ++ reason
  | .remoteClosed none => "Feed closed the connection"
  | .send reason => "Failed to send command: " ++ reason
  | .unexpectedPong (some id) received =>
    "Unexpected pong '" ++ received ++ "' (expected " ++ Text.ofNat id ++ ")"
  | .unexpectedPong none received =>
    "Unexpected pong '" ++ received ++ "' with no ping outstanding"
  | .missedPong id => "Expected pong " ++ Text.ofNat id ++ " not received"
  | .noNodesAnnounced timeout =>
    "No node announced within " ++ Text.ofNat (timeout / 1000) ++ "ms"

end NodeWatch
