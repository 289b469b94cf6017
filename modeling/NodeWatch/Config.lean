/-
NodeWatch.Config — the configuration, read from variables.

A variable that is not set has a default.  What else can be wrong with it
depends on the variable:

* the feed's address and the chain must not be blank, and the address
  must be one of a web socket: else there is no configuration;
* a number that cannot be read is replaced by its default, with a
  warning; the snapshot interval and the two timeouts must not be zero;
* a store that is not known is replaced by the default one, with a
  warning.

The first fault ends the reading, so a warning that would come later is
not given.  The interval is given in minutes and kept in seconds; the
product is the one place where an accepted number can be too large.
-/
import NodeWatch.Text.Blank
import NodeWatch.Text.Numeral
import NodeWatch.Tracker.Postponed

namespace NodeWatch

/-- Why there is no configuration. -/
inductive ConfigError where
  | missingVariable (name : String)
  | invalidValue (reason : String)
  deriving DecidableEq, Repr

/-- The text under which an error is reported. -/
def ConfigError.message : ConfigError → String
  | .missingVariable name => "Missing environment variable: " ++ name
  | .invalidValue reason => "Invalid configuration value: " ++ reason

/-- Which store to use. -/
inductive Backend where
  | sqlite
  | memory
  deriving DecidableEq, Repr

/-- The name of a store. -/
def Backend.name : Backend → String
  | .sqlite => "sqlite"
  | .memory => "memory"

/-- The configuration of the tracker. -/
structure Config where
  feedUri : String
  chain : String
  /-- Seconds between two flushes. -/
  snapshotInterval : UInt64
  /-- Milliseconds between two pings. -/
  pingInterval : UInt64
  /-- Milliseconds in which a first node must be announced. -/
  firstNodeTimeout : UInt64
  retry : RetryPolicy
  databasePath : String
  backend : Backend
  deriving DecidableEq, Repr

namespace Config

/-- What was replaced by a default. -/
inductive Warning where
  | unreadable (name raw : String) (default : UInt64)
  | unknownBackend (raw : String)
  deriving DecidableEq, Repr

/-- The text of a warning. -/
def Warning.text : Warning → String
  | .unreadable name raw default =>
    "Invalid " ++ name ++ " '" ++ raw ++ "', defaulting to " ++ Text.ofNat default.toNat
  | .unknownBackend raw =>
    "Invalid TRACKER_BACKEND '" ++ raw ++ "', defaulting to sqlite"

/-- Why the reading of a configuration has ended without one. -/
inductive Fault where
  | refused (cause : ConfigError)
  | overflow (operation : Overflow)
  deriving DecidableEq, Repr

/-- The values of the variables that are set. -/
abbrev Variables := String → Option String

/-! ## 1. Single variables -/

/-- A text that may be left out but not left blank. -/
def required (vars : Variables) (name default : String) : Except ConfigError String :=
  match vars name with
  | none => .ok default
  | some raw =>
    let trimmed := Text.trim raw.toList
    if trimmed.isEmpty then .error (.missingVariable name) else .ok (String.ofList trimmed)

/-- A number below `limit`, or its default. -/
def number (vars : Variables) (name : String) (limit : Nat) (default : UInt64) :
    UInt64 × List Warning :=
  match vars name with
  | none => (default, [])
  | some raw =>
    match Text.unsigned? limit (Text.trim raw.toList) with
    | some n => (UInt64.ofNat n, [])
    | none => (default, [.unreadable name raw default])

/-- A store by its name.  The names are ASCII, and the case of their
letters does not matter. -/
def backendOf (vars : Variables) : Backend × List Warning :=
  match vars "TRACKER_BACKEND" with
  | none => (.sqlite, [])
  | some raw =>
    let name := String.ofList (raw.toList.map Char.toLower)
    if name = Backend.name .sqlite then (.sqlite, [])
    else if name = Backend.name .memory then (.memory, [])
    else (.sqlite, [.unknownBackend raw])

/-- Whether an address is one of a web socket. -/
def isSocketUri (uri : String) : Bool :=
  "ws://".toList.isPrefixOf uri.toList || "wss://".toList.isPrefixOf uri.toList

/-- The first of some numbers that is zero but must not be. -/
def firstZero : List (String × UInt64) → Except ConfigError Unit
  | [] => .ok ()
  | (name, n) :: rest =>
    if n = 0 then .error (.invalidValue (name ++ " must be greater than 0")) else firstZero rest

/-! ## 2. The configuration -/

/-- The feed's address and the chain. -/
def feedOf (vars : Variables) : Except ConfigError (String × String) := do
  let uri ← required vars "WEBSOCKET_URI" "wss://telemetry.joystream.org/feed/"
  if isSocketUri uri then
    let chain ← required vars "CHAIN_NAME" "Joystream"
    return (uri, chain)
  else .error (.invalidValue "WEBSOCKET_URI must start with ws:// or wss://")

/-- The configuration, or why there is none, and the warnings given on
the way. -/
def load (vars : Variables) : List Warning × Except Fault Config :=
  match feedOf vars with
  | .error cause => ([], .error (.refused cause))
  | .ok (feedUri, chain) =>
    let (interval, w₁) := number vars "INTERVAL" (2 ^ 64) 5
    let (pingInterval, w₂) := number vars "PING_INTERVAL_MS" (2 ^ 64) 30000
    let (firstNodeTimeout, w₃) := number vars "NO_NEW_NODE_TIMEOUT_MS" (2 ^ 64) 30000
    match firstZero [("INTERVAL", interval), ("PING_INTERVAL_MS", pingInterval),
        ("NO_NEW_NODE_TIMEOUT_MS", firstNodeTimeout)] with
    | .error cause => (w₁ ++ w₂ ++ w₃, .error (.refused cause))
    | .ok () =>
      let (delay, w₄) := number vars "LOCATION_RETRY_DELAY_MS" (2 ^ 64) 1000
      let (attempts, w₅) := number vars "LOCATION_RETRY_ATTEMPTS" (2 ^ 32) 10
      let (backend, w₆) := backendOf vars
      let warnings := w₁ ++ w₂ ++ w₃ ++ w₄ ++ w₅ ++ w₆
      match Word.multiply interval 60 with
      | .error operation => (warnings, .error (.overflow operation))
      | .ok snapshotInterval =>
        (warnings, .ok {
          feedUri, chain, snapshotInterval, pingInterval, firstNodeTimeout
          retry := ⟨delay.toNat, attempts.toNat⟩
          databasePath := (vars "TRACKER_DB_PATH").getD "telemetry.db"
          backend })

end Config

end NodeWatch
