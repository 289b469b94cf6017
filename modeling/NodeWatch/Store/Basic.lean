/-
NodeWatch.Store.Basic — the calls that the tracker makes on a store.

The tracker creates records, reads them, sets their location and appends
history; nothing is ever deleted.  A call that fails hands on no store.
The memory store can run out of ids, which is no answer of the store but
an overflow; the other failures are answers.
-/
import NodeWatch.Store.Memory
import NodeWatch.Store.Tables

namespace NodeWatch

/-- A store of either kind. -/
inductive Store where
  | memory (s : MemoryStore)
  | tables (s : TableStore)
  deriving DecidableEq

/-- The kinds of calls that take time. -/
inductive StoreCall where
  | create
  | find
  | setLocation
  | append
  deriving DecidableEq, Repr

namespace Store

/-- What the configuration calls a store of this kind. -/
def kind : Store → String
  | .memory _ => "memory"
  | .tables _ => "sqlite"

/-- Create a record. -/
def create (store : Store) (profile : Profile) :
    Except Overflow (Except StoreError (DurableId × Store)) :=
  match store with
  | .memory s => (s.create profile).map fun (id, s) => .ok (id, .memory s)
  | .tables s => .ok ((s.create profile).map fun (id, s) => (id, .tables s))

/-- The record with an id. -/
def find (store : Store) (id : DurableId) : Option Record :=
  match store with
  | .memory s => s.find id
  | .tables s => s.find id

/-- Set the location of a record. -/
def setLocation (store : Store) (id : DurableId) (location : Location) : Except StoreError Store :=
  match store with
  | .memory s => (s.setLocation id location).map .memory
  | .tables s => (s.setLocation id location).map .tables

/-- Append an entry to the history of its node. -/
def append (store : Store) (entry : HistoryEntry) : Except StoreError Store :=
  match store with
  | .memory s => (s.append entry).map .memory
  | .tables s => (s.append entry).map .tables

/-- The id of the latest record, or what the ids go on after. -/
def latest : Store → DurableId
  | .memory s => s.latest
  | .tables s => s.latest

/-- The entries of a node, oldest first. -/
def historyOf (store : Store) (id : DurableId) : List HistoryEntry :=
  match store with
  | .memory s => s.historyOf id
  | .tables s => s.historyOf id

end Store

end NodeWatch
