/-
NodeWatch.Feed.KeepAlive — pings, and the pongs that answer them.

Pings are numbered from zero.  A ping must be answered, by a pong that
carries its number, before the next one is due; the number goes up only
with the answer.  A call that fails hands on no state, so it changes none.
-/
import NodeWatch.Feed.Error
import NodeWatch.Text.Blank

namespace NodeWatch

/-- The keep-alive of one session. -/
structure KeepAlive where
  /-- The id of the next ping.  A word of 64 bits counts them; what it does
  at its end is left out. -/
  nextId : Nat
  /-- The unanswered ping and the instant it was sent at. -/
  outstanding : Option (Nat × Nat)
  deriving DecidableEq, Repr

namespace KeepAlive

/-- No ping has been sent. -/
def start : KeepAlive := ⟨0, none⟩

/-- The id of the unanswered ping. -/
def awaited (k : KeepAlive) : Option Nat :=
  k.outstanding.map Prod.fst

/-- Send the next ping at the instant `now`: its id. -/
def ping (k : KeepAlive) (now : Nat) : Except FeedError (Nat × KeepAlive) :=
  match k.outstanding with
  | some (id, _) => .error (.missedPong id)
  | none => .ok (k.nextId, { k with outstanding := some (k.nextId, now) })

/-- The ping id that the text of a pong carries. -/
def pongId? (text : String) : Option Nat :=
  Text.unsigned? (2 ^ 64) (Text.trim text.toList)

/-- Take a pong at the instant `now`: the time since its ping. -/
def pong (k : KeepAlive) (text : String) (now : Nat) : Except FeedError (Nat × KeepAlive) :=
  match k.outstanding with
  | some (id, sent) =>
    if pongId? text = some id then .ok (now - sent, ⟨k.nextId + 1, none⟩)
    else .error (.unexpectedPong (some id) text)
  | none => .error (.unexpectedPong none text)

end KeepAlive

/-! ## Commands -/

namespace Command

/-- The command that asks for the updates of a chain. -/
def subscribe (chain : String) : String :=
  "subscribe:" ++ chain

/-- The command that asks for a pong. -/
def ping (id : Nat) : String :=
  "ping:" ++ Text.ofNat id

end Command

end NodeWatch
