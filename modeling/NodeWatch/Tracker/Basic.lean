/-
NodeWatch.Tracker.Basic — the tracker: a registry beside a store.

What the tracker does to its registry is done at once.  A call on the
store takes time, and in the meantime others may use both.  So whatever
calls the store is a job: a value that says where the work stands, with a
step that takes it over one call, or over what can be done before the
first.  Nothing of the registry is held from one step to the next.

A call can be refused on its way, with an error, before the store sees
it.  A refusal is given to the step from outside, so a run of a job can
meet every pattern of failures.
-/
import NodeWatch.Notice
import NodeWatch.Store.Basic
import NodeWatch.Tracker.Postponed
import NodeWatch.Tracker.Registry

namespace NodeWatch

/-! ## 1. The tracker -/

/-- The tracked nodes, the store of their records, and how long a
location waits for its node. -/
structure Tracker where
  registry : Registry
  store : Store
  policy : RetryPolicy
  deriving DecidableEq

/-- The error with which a call is refused before the store sees it, if
it is refused. -/
abbrev Refusal := Option StoreError

namespace Tracker

/-- A tracker of no nodes. -/
def ofStore (store : Store) (policy : RetryPolicy) : Tracker :=
  ⟨.empty, store, policy⟩

/-- Create a record. -/
def create (t : Tracker) (refusal : Refusal) (profile : Profile) :
    Except Overflow (Except StoreError (DurableId × Tracker)) :=
  match refusal with
  | some cause => .ok (.error cause)
  | none =>
    (t.store.create profile).map fun answer =>
      answer.map fun (id, store) => (id, { t with store })

/-- Read the record with an id. -/
def find (t : Tracker) (refusal : Refusal) (id : DurableId) : Except StoreError (Option Record) :=
  match refusal with
  | some cause => .error cause
  | none => .ok (t.store.find id)

/-- Set the location of a record. -/
def setLocation (t : Tracker) (refusal : Refusal) (id : DurableId) (location : Location) :
    Except StoreError Tracker :=
  match refusal with
  | some cause => .error cause
  | none => (t.store.setLocation id location).map fun store => { t with store }

/-- Append an entry to the history of its node. -/
def append (t : Tracker) (refusal : Refusal) (entry : HistoryEntry) : Except StoreError Tracker :=
  match refusal with
  | some cause => .error cause
  | none => (t.store.append entry).map fun store => { t with store }

end Tracker

/-! ## 2. Steps of jobs -/

/-- Where a job stands after a step: it goes on, or it has ended. -/
inductive Progress (σ ρ : Type) where
  | running (state : σ)
  | ended (result : ρ)
  deriving DecidableEq, Repr

/-- What a step of a job comes to. -/
structure Step (σ ρ : Type) where
  tracker : Tracker
  progress : Progress σ ρ
  notices : List Notice := []

namespace Step

/-- The same step, of a job that has this one for a part. -/
def map {σ ρ τ π : Type} (onState : σ → τ) (onResult : ρ → π) (s : Step σ ρ) : Step τ π where
  tracker := s.tracker
  progress := match s.progress with
    | .running state => .running (onState state)
    | .ended result => .ended (onResult result)
  notices := s.notices

end Step

/-- What must happen before the next step of a job. -/
inductive Need where
  | nothing
  /-- A call on the store, whose refusal is given to the step. -/
  | call (kind : StoreCall)
  /-- A pause of so many milliseconds. -/
  | pause (delay : Nat)
  /-- An instant, in milliseconds. -/
  | instant (deadline : Nat)
  deriving DecidableEq, Repr

end NodeWatch
