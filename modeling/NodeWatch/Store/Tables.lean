/-
NodeWatch.Store.Tables — the durable store: three tables and their rules.

* `nodes` has a row per record, without the location.  Row numbers go up
  by one from a sequence that never goes back.
* `locations` has at most one row per node; a second one replaces the
  columns of the first.  No column may be empty, and not-a-number counts
  as empty.
* `history` has a row per interval, in the order of their row numbers,
  which is the order in which they were appended.  Every row must name a
  row of `nodes`.

Neither `nodes` nor `locations` tells here when a row was written, since
nobody reads it.  Row numbers of `history` are not kept either: they are
the places in the array, and do not run out here as those of `nodes` do.

Columns hold signed words.  An unsigned number that is too large for one
is refused before any table is looked at, never wrapped.  A record is
read by joining a row of `nodes` with its row of `locations`.  A call
that fails hands on no store, so it changes none.
-/
import NodeWatch.Store.Error
import NodeWatch.Table
import NodeWatch.Word

namespace NodeWatch

/-! ## 1. Columns -/

namespace Column

/-- An unsigned number as a column. -/
def ofUnsigned (n : UInt64) : Except StoreError Int64 :=
  if n ≤ Word.signedMax then .ok n.toInt64 else .error .numberTooLarge

/-- A column as an unsigned number. -/
def toUnsigned (n : Int64) : UInt64 :=
  n.toUInt64

/-- A double as a column: not-a-number is empty, and zero has no sign. -/
def ofDouble (x : Binary64) : Option Binary64 :=
  if x.isNaN then none else if x.isZero then some (.ofNat 0) else some x

end Column

/-- A row of the history table. -/
structure HistoryRow where
  node : Int64
  timestamp : Int64
  avgBlockTime : Option Int64
  avgPropagationTime : Option Int64
  peers : Int64
  queued : Int64
  bestNumber : Int64
  bestHash : String
  blocks : Int64
  uptime : Option Int64
  deriving DecidableEq, Repr

namespace HistoryRow

/-- The row of an entry, unless a number is too large for its column. -/
def ofEntry (e : HistoryEntry) : Except StoreError HistoryRow := do
  let avgBlockTime ← e.avgBlockTime.mapM Column.ofUnsigned
  let avgPropagationTime ← e.avgPropagationTime.mapM Column.ofUnsigned
  let bestNumber ← Column.ofUnsigned e.bestNumber
  let blocks ← Column.ofUnsigned e.blocks
  return {
    node := e.node
    timestamp := e.timestamp
    avgBlockTime
    avgPropagationTime
    peers := e.peers.toUInt64.toInt64
    queued := e.queued.toUInt64.toInt64
    bestNumber
    bestHash := e.bestHash
    blocks
    uptime := e.uptime }

/-- The entry of a row. -/
def toEntry (r : HistoryRow) : HistoryEntry where
  node := r.node
  timestamp := r.timestamp
  avgBlockTime := r.avgBlockTime.map Column.toUnsigned
  avgPropagationTime := r.avgPropagationTime.map Column.toUnsigned
  peers := r.peers.toUInt64.toUInt32
  queued := r.queued.toUInt64.toUInt32
  bestNumber := Column.toUnsigned r.bestNumber
  bestHash := r.bestHash
  blocks := Column.toUnsigned r.blocks
  uptime := r.uptime

end HistoryRow

/-! ## 2. Tables -/

/-- The durable store. -/
structure TableStore where
  nodes : Table DurableId Profile
  locations : Table DurableId Location
  /-- The rows in the order of their numbers. -/
  history : Array HistoryRow
  /-- The highest row number that `nodes` has ever had. -/
  sequence : DurableId
  deriving DecidableEq

namespace TableStore

/-- Empty tables. -/
def empty : TableStore where
  nodes := .empty
  locations := .empty
  history := #[]
  sequence := 0

/-- Create a record.  There is none after the last row number. -/
def create (s : TableStore) (profile : Profile) : Except StoreError (DurableId × TableStore) :=
  match Word.add s.sequence 1 with
  | .error _ => .error .full
  | .ok id => .ok (id, { s with nodes := s.nodes.insert id profile, sequence := id })

/-- The record with an id: the two rows that have it, joined. -/
def find (s : TableStore) (id : DurableId) : Option Record :=
  (s.nodes.get? id).map fun profile => ⟨id, profile, s.locations.get? id⟩

/-- Set the location of a record. -/
def setLocation (s : TableStore) (id : DurableId) (location : Location) :
    Except StoreError TableStore :=
  if s.nodes.contains id then
    match Column.ofDouble location.lat, Column.ofDouble location.lng with
    | none, _ => .error (.notNull "locations.lat")
    | some _, none => .error (.notNull "locations.lng")
    | some lat, some lng =>
      .ok { s with locations := s.locations.insert id ⟨lat, lng, location.city⟩ }
  else .error (.notFound id)

/-- Append an entry to the history of its node.  That the row numbers of
the history run out, after as many rows as a signed word can count, is left
out. -/
def append (s : TableStore) (entry : HistoryEntry) : Except StoreError TableStore := do
  let row ← HistoryRow.ofEntry entry
  if s.nodes.contains row.node then return { s with history := s.history.push row }
  else .error .foreignKey

/-- The highest row number in `nodes`, or zero. -/
def latest (s : TableStore) : DurableId :=
  s.nodes.entries.foldl (fun highest row => if highest < row.1 then row.1 else highest) 0

/-- The entries of a node, oldest first. -/
def historyOf (s : TableStore) (id : DurableId) : List HistoryEntry :=
  (s.history.toList.filter fun row => decide (row.node = id)).map HistoryRow.toEntry

end TableStore

end NodeWatch
