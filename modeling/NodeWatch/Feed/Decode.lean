/-
NodeWatch.Feed.Decode — frames of the feed, decoded entry by entry.

A frame is a JSON list of codes and payloads in turn.  Each pair is
decoded by itself: a payload that is not in order costs its own entry
only.  Payloads are positional: elements behind the known ones are
ignored and an element that is not there reads as null, so that both
sides of the feed can grow.
-/
import NodeWatch.Feed.Message
import NodeWatch.Json.Reader
import NodeWatch.Text.Blank

namespace NodeWatch

/-! ## 1. Errors -/

/-- Why a frame, or an entry of it, cannot be decoded. -/
inductive DecodeError where
  /-- The frame is no JSON list. -/
  | json (cause : Json.Error)
  /-- The frame is no list of pairs, or a code is no code. -/
  | unexpectedShape (reason : String)
  /-- The payload does not fit its action. -/
  | payload (action : Action) (reason : String)

/-- The text under which an error is reported. -/
def DecodeError.message : DecodeError → String
  | .json cause => "Invalid JSON frame: " ++ cause.message
  | .unexpectedShape reason => "Unexpected frame shape: " ++ reason
  | .payload action reason => "Malformed " ++ action.name ++ " payload: " ++ reason

namespace Payload

open Json (Mismatch)

/-- What a part of a payload yields, or why it cannot be decoded. -/
abbrev Part (α : Type) := Except String α

/-! ## 2. Elements of a payload -/

/-- The elements of a positional payload. -/
def positional : Json → Part (List Json)
  | .array items => .ok items
  | other => .error ("expected an array, got " ++ other.compact)

/-- The element at `index`, which goes by `name`. -/
def field {α : Type} (read : Json → Except Mismatch α) (items : List Json) (index : Nat)
    (name : String) : Part α :=
  match read (Json.element items index) with
  | .ok value => .ok value
  | .error mismatch =>
    .error (name ++ " (index " ++ Text.ofNat index ++ "): " ++ mismatch.message)

/-- A payload that is one value. -/
def scalar {α : Type} (read : Json → Except Mismatch α) (payload : Json) : Part α :=
  match read payload with
  | .ok value => .ok value
  | .error mismatch => .error mismatch.message

/-- The gauges of a node. -/
def gauges (v : Json) : Part Gauges := do
  let items ← positional v
  let peers ← field Json.toUnsigned32 items 0 "peer count"
  let queued ← field Json.toUnsigned32 items 1 "transactions in queue"
  .ok { peers, queued }

/-- A block. -/
def block (v : Json) : Part Block := do
  let items ← positional v
  let number ← field Json.toUnsigned64 items 0 "block number"
  let hash ← field Json.toText items 1 "block hash"
  let time ← field Json.toUnsigned64 items 2 "block time"
  let timestamp ← field Json.toUnsigned64 items 3 "block timestamp"
  let propagation ← field (Json.orNull Json.toUnsigned64) items 4 "propagation time"
  .ok { number, hash, time, timestamp, propagation }

/-- A location as an array of exactly latitude, longitude and city. -/
def locationOfArray (items : List Json) : Except Mismatch Location :=
  match items with
  | [] => .error (.length 0 .locationOfThree)
  | lat :: rest => do
    let lat ← lat.toDouble
    match rest with
    | [] => .error (.length 1 .locationOfThree)
    | lng :: rest => do
      let lng ← lng.toDouble
      match rest with
      | [] => .error (.length 2 .locationOfThree)
      | city :: rest => do
        let city ← city.toText
        if rest.isEmpty then .ok { lat, lng, city }
        else .error (.length items.length .fewerElements)

/-- A location as an object.  The members are read in the order of their
keys; only then a missing one is noticed. -/
def locationOfObject (members : List (String × Json)) : Except Mismatch Location := do
  let city ← (Json.member? "city" members).mapM Json.toText
  let lat ← (Json.member? "lat" members).mapM Json.toDouble
  let lng ← (Json.member? "lng" members).mapM Json.toDouble
  match lat, lng, city with
  | none, _, _ => .error (.missing "lat")
  | some _, none, _ => .error (.missing "lng")
  | some _, some _, none => .error (.missing "city")
  | some lat, some lng, some city => .ok { lat, lng, city }

/-- A location of an announcement. -/
def location : Json → Except Mismatch Location
  | .array items => locationOfArray items
  | .object members => locationOfObject members
  | other => .error (.type other .location)

/-- Epoch milliseconds, given as a number or as a numeral.  A number that
is not a signed word is cut toward zero and held to the signed range. -/
def epochMillis : Json → Option Int64
  | .number (.unsigned n) =>
    if n.toNat < 2 ^ 63 then some (Int64.ofInt n.toNat) else some (Binary64.ofNat n.toNat).toSigned
  | .number (.negative n _) => some n
  | .number (.double x) => some x.toSigned
  | .string s => Text.signed? (Text.trim s.toList)
  | _ => none

/-- A string, or the compact text of any other value. -/
def label : Json → String
  | .string s => s
  | other => other.compact

/-! ## 3. Payloads -/

/-- An announcement: id, details, gauges, two series that are not read,
block, location, startup time. -/
def announcement (payload : Json) : Part Announcement := do
  let items ← positional payload
  let details ← positional (Json.element items 1)
  let feedId ← field Json.toUnsigned64 items 0 "id"
  let name ← field Json.toText details 0 "name"
  let implementation ← field Json.toText details 1 "implementation"
  let version ← field Json.toText details 2 "version"
  let address ← field (Json.orNull Json.toText) details 3 "address"
  let networkId ← field (Json.orNull Json.toText) details 4 "network id"
  let gauges ← gauges (Json.element items 2)
  let block ← block (Json.element items 5)
  let location ← field (Json.orNull location) items 6 "location"
  let startup := epochMillis (Json.element items 7)
  .ok { feedId, profile := { name, implementation, version, address, networkId, startup },
        gauges, block, location }

/-- A located node: id, latitude, longitude, city. -/
def located (payload : Json) : Part (FeedId × Location) := do
  let items ← positional payload
  let feedId ← field Json.toUnsigned64 items 0 "id"
  let lat ← field Json.toDouble items 1 "lat"
  let lng ← field Json.toDouble items 2 "lng"
  let city ← field Json.toText items 3 "city"
  .ok (feedId, { lat, lng, city })

/-- An imported block: id, block. -/
def imported (payload : Json) : Part (FeedId × Block) := do
  let items ← positional payload
  let feedId ← field Json.toUnsigned64 items 0 "id"
  let block ← block (Json.element items 1)
  .ok (feedId, block)

/-- The gauges of a node: id, gauges. -/
def reported (payload : Json) : Part (FeedId × Gauges) := do
  let items ← positional payload
  let feedId ← field Json.toUnsigned64 items 0 "id"
  let gauges ← gauges (Json.element items 1)
  .ok (feedId, gauges)

/-- The message of an action's payload. -/
def message (action : Action) (payload : Json) : Part Message :=
  match action with
  | .feedVersion => .ok (.feedVersion payload)
  | .addedNode => (announcement payload).map .addedNode
  | .removedNode => (scalar Json.toUnsigned64 payload).map .removedNode
  | .staleNode => (scalar Json.toUnsigned64 payload).map .staleNode
  | .locatedNode => (located payload).map fun (id, location) => .locatedNode id location
  | .importedBlock => (imported payload).map fun (id, block) => .importedBlock id block
  | .nodeStats => (reported payload).map fun (id, gauges) => .nodeStats id gauges
  | .subscribedTo => .ok (.subscribedTo (label payload))
  | .pong => .ok (.pong (label payload))
  | other => .ok (.ignored other)

end Payload

/-! ## 4. Frames -/

namespace Message

/-- The message of a code and its payload. -/
def decode (code : UInt64) (payload : Json) : Except DecodeError Message :=
  match Action.ofCode? code with
  | none => .ok (.unknown code)
  | some action =>
    match Payload.message action payload with
    | .ok message => .ok message
    | .error reason => .error (.payload action reason)

/-- The message of an entry: a code, which must be an unsigned integer,
and its payload. -/
def ofEntry (code payload : Json) : Except DecodeError Message :=
  match code with
  | .number (.unsigned code) => decode code payload
  | other => .error (.unexpectedShape ("action code is not an integer: " ++ other.compact))

/-- The messages of the entries of a frame, in their order.  A last
element without a partner is not read. -/
def ofEntries : List Json → List (Except DecodeError Message)
  | code :: payload :: rest => ofEntry code payload :: ofEntries rest
  | _ => []

/-- The messages of a frame, in their order.  It fails as a whole only if
it is no list of pairs. -/
def ofFrame (frame : String) : Except DecodeError (List (Except DecodeError Message)) :=
  match Json.parseList frame with
  | .error cause => .error (.json cause)
  | .ok items =>
    if items.length % 2 = 0 then .ok (ofEntries items)
    else .error (.unexpectedShape ("odd number of elements (" ++ Text.ofNat items.length ++ ")"))

end Message

end NodeWatch
