/-
NodeWatch.Tracker.Job — the work that goes on while calls on the store
take their time.

A job is an announcement, a location, with one attempt or many, or a
flush.  Any number of jobs are under way at once, and each of their steps
is whole.
-/
import NodeWatch.Snapshot.Flushing
import NodeWatch.Tracker.Announcing
import NodeWatch.Tracker.Locating

namespace NodeWatch

/-- Work that calls the store. -/
inductive Job where
  /-- An announcement.  The feed waits for no result, so a failure of its
  announcements is `told`. -/
  | announcing (told : Bool) (a : Announcing)
  /-- A single attempt to set a location. -/
  | attempting (l : Locating)
  /-- A location, with as many attempts as it has. -/
  | locating (l : Locating)
  | flushing (f : Flushing)
  deriving DecidableEq, Repr

namespace Job

/-- What a job comes to. -/
inductive Result where
  | announced (result : Except StoreError DurableId)
  | attempted (result : Except StoreError LocationUpdate)
  | located (outcome : LocationOutcome)
  | flushed (report : Report)
  /-- An overflow has ended the job without a result. -/
  | lost (cause : Overflow)

/-- The result of work that an overflow may end. -/
def Result.ofExcept {ρ : Type} (f : ρ → Result) : Except Overflow ρ → Result
  | .ok result => f result
  | .error cause => .lost cause

/-- What must happen before the next step of a job. -/
def need (policy : RetryPolicy) : Job → Need
  | .announcing _ a => a.need
  | .attempting l => l.need policy
  | .locating l => l.need policy
  | .flushing f => f.need

/-- What is told before the next step of a job. -/
def before : Job → List Notice
  | .announcing _ a => a.before
  | _ => []

/-- What is told at the end of an announcement. -/
def endNotices (told : Bool) (node : Announcement) :
    Progress Announcing (Except Overflow (Except StoreError DurableId)) → List Notice
  | .ended (.ok (.ok id)) => [.added node.feedId node.profile.name id]
  | .ended (.ok (.error cause)) =>
    if told then [.addFailed node.feedId node.profile.name cause] else []
  | _ => []

/-- The next step of a job. -/
def step (t : Tracker) (refusal : Refusal) : Job → Step Job Result
  | .announcing told a =>
    let s := a.step t refusal
    { s.map (.announcing told) (.ofExcept .announced) with
      notices := s.notices ++ endNotices told a.node s.progress }
  | .attempting l => (l.attempt t refusal).map .attempting .attempted
  | .locating l => (l.step t refusal).map .locating .located
  | .flushing f => (f.step t refusal).map .flushing (.ofExcept .flushed)

end Job

end NodeWatch
