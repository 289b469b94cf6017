/-
NodeWatch.Snapshot.Flushing — from a snapshot to history entries.

A flush takes its snapshot in one step, which empties the averages.  Then
it goes through the readings in their order: it looks up when the node
was started and appends the entry of the reading.  A record that cannot
be read costs its entry the uptime, an entry that cannot be appended is
counted as failed, and neither touches the other nodes.  The registry is
not used again after the snapshot.
-/
import NodeWatch.Tracker.Basic

namespace NodeWatch

/-- Where a flush stands. -/
inductive Flushing where
  /-- The snapshot has not been taken. -/
  | unbegun (now : Int64)
  /-- The record of the first reading is being read. -/
  | finding (now : Int64) (reading : Reading) (rest : List Reading) (report : Report)
  /-- The entry is being appended. -/
  | appending (now : Int64) (entry : HistoryEntry) (rest : List Reading) (report : Report)
  deriving DecidableEq, Repr

namespace Flushing

/-- What must happen before the next step. -/
def need : Flushing → Need
  | .unbegun _ => .nothing
  | .finding _ _ _ _ => .call .find
  | .appending _ _ _ _ => .call .append

/-- How it goes on with the readings that are left. -/
def next (now : Int64) (report : Report) :
    List Reading → Progress Flushing (Except Overflow Report)
  | [] => .ended (.ok report)
  | reading :: rest => .running (.finding now reading rest report)

/-- When the node of a record was started; an error is noticed, and then
it is not known. -/
def startupOf (id : DurableId) : Except StoreError (Option Record) → Option Int64 × List Notice
  | .ok record => (record.bind fun r => r.profile.startup, [])
  | .error cause => (none, [.startupUnknown id cause])

/-- The next step.  An uptime that does not fit its word ends the flush
with the entries that are left. -/
def step (t : Tracker) (refusal : Refusal) : Flushing → Step Flushing (Except Overflow Report)
  | .unbegun now =>
    let (readings, registry) := t.registry.snapshot
    { tracker := { t with registry }
      progress := next now (.begin readings.length) readings }
  | .finding now reading rest report =>
    let id := reading.values.durableId
    let (startup, notices) := startupOf id (t.find refusal id)
    match reading.toEntry now startup with
    | .error cause => { tracker := t, progress := .ended (.error cause), notices }
    | .ok entry =>
      { tracker := t, progress := .running (.appending now entry rest report), notices }
  | .appending now entry rest report =>
    match t.append refusal entry with
    | .ok t => { tracker := t, progress := next now report.wrote rest }
    | .error cause =>
      { tracker := t
        progress := next now report.missed rest
        notices := [.appendFailed entry.node cause] }

end Flushing

end NodeWatch
