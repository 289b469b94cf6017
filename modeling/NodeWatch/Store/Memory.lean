/-
NodeWatch.Store.Memory — the store that is lost when the program ends.

Ids go up by one and are never used twice.  The history is capped: an
entry that is appended to a full history puts the oldest one out.
Records are never put out.  A call that fails hands on no store, so it
changes none.

The number of records, and the history of all nodes together, have no
reader of their own: only tests ask for them, and the fields say both.
-/
import NodeWatch.Store.Error
import NodeWatch.Table
import NodeWatch.Word

namespace NodeWatch

/-- The store in memory. -/
structure MemoryStore where
  /-- The id of the latest record. -/
  latest : DurableId
  records : Table DurableId Record
  /-- The entries that are kept, oldest first. -/
  history : Array HistoryEntry
  /-- How many entries are kept. -/
  limit : Nat
  deriving DecidableEq

namespace MemoryStore

/-- The entries that are kept unless another number is asked for. -/
def defaultLimit : Nat := 10000

/-- An empty store that keeps `limit` entries, but at least one. -/
def withLimit (limit : Nat) : MemoryStore where
  latest := 0
  records := .empty
  history := #[]
  limit := max limit 1

/-- An empty store. -/
def empty : MemoryStore :=
  withLimit defaultLimit

/-- An empty store whose ids go on after `latest`. -/
def seeded (latest : DurableId) : MemoryStore :=
  { empty with latest }

/-- Create a record.  There is none after the last id. -/
def create (s : MemoryStore) (profile : Profile) : Except Overflow (DurableId × MemoryStore) := do
  let id ← Word.add s.latest 1
  return (id, { s with latest := id, records := s.records.insert id ⟨id, profile, none⟩ })

/-- The record with an id. -/
def find (s : MemoryStore) (id : DurableId) : Option Record :=
  s.records.get? id

/-- Set the location of a record. -/
def setLocation (s : MemoryStore) (id : DurableId) (location : Location) :
    Except StoreError MemoryStore :=
  match s.records.get? id with
  | none => .error (.notFound id)
  | some record =>
    .ok { s with records := s.records.insert id { record with location := some location } }

/-- Append an entry to the history of its node. -/
def append (s : MemoryStore) (entry : HistoryEntry) : Except StoreError MemoryStore :=
  if s.records.contains entry.node then
    let kept := if s.history.size = s.limit then s.history.extract 1 s.history.size else s.history
    .ok { s with history := kept.push entry }
  else .error (.notFound entry.node)

/-- The entries of a node, oldest first. -/
def historyOf (s : MemoryStore) (id : DurableId) : List HistoryEntry :=
  s.history.toList.filter fun entry => decide (entry.node = id)

end MemoryStore

end NodeWatch
