/-
NodeWatch.Timeline.Basic — a tracker and its tasks on a clock.

Tasks run one at a time, each until it has to wait.  Those that can go on
stand in a queue; those that wait for an instant sleep, and wake up in
the order of their instants, or of going to sleep where these are the
same.  The clock moves only when no task can go on.

How long a call on the store takes, and whether it is refused, is given
by a function of its kind and of how many calls of that kind there have
been.  A call or a pause that takes no time does not interrupt its task.

A caller can put a task into the queue and come back for its result
later, or have it run at once: then the task goes before all others, and
the clock moves on to each of its instants.
-/
import NodeWatch.Feed.Client
import NodeWatch.Timeline.Task

namespace NodeWatch

/-- How the calls on a store fare: for the n-th call of each kind, from
1, its milliseconds and its refusal. -/
abbrev Conduct := StoreCall → Nat → Nat × Refusal

/-- The name of a task on a timeline. -/
abbrev TaskId := Nat

/-- A task that can go on. -/
structure Running where
  id : TaskId
  task : Task
  /-- The refusal for its next step, if what the step needs has happened;
  none if that still has to be seen to. -/
  served : Option Refusal

/-- A task that waits for an instant. -/
structure Sleeping where
  wake : Nat
  running : Running

/-- A tracker, a session and tasks on a clock. -/
structure Timeline where
  /-- Milliseconds since the beginning. -/
  now : Nat
  /-- What the wall clock showed at the beginning. -/
  epoch : Int64
  conduct : Conduct
  /-- How many calls of each kind there have been. -/
  calls : Table StoreCall Nat
  tracker : Tracker
  session : Session
  /-- The tasks that can go on, the next one first. -/
  ready : List Running
  /-- The tasks that wait, in the order of going to sleep. -/
  asleep : List Sleeping
  results : List (TaskId × Job.Result)
  /-- How many tasks there have been. -/
  spawned : Nat
  notices : List Notice

namespace Timeline

/-- A timeline on which nothing has happened. -/
def start (tracker : Tracker) (conduct : Conduct) (epoch : Int64) : Timeline where
  now := 0
  epoch
  conduct
  calls := .empty
  tracker
  session := .start
  ready := []
  asleep := []
  results := []
  spawned := 0
  notices := []

/-- What the clocks show. -/
def clock (t : Timeline) : Clock :=
  ⟨t.now, t.epoch + Int64.ofNat t.now⟩

/-- The result of a task, if it has ended. -/
def result? (t : Timeline) (id : TaskId) : Option Job.Result :=
  t.results.lookup id

/-- When a task wakes up, if it sleeps. -/
def wake? (t : Timeline) (id : TaskId) : Option Nat :=
  (t.asleep.find? fun s => s.running.id == id).map Sleeping.wake

/-! ## 1. Turns -/

/-- Let a task go on when `delay` milliseconds have passed. -/
def after (t : Timeline) (delay : Nat) (r : Running) : Timeline :=
  if delay = 0 then { t with ready := r :: t.ready }
  else { t with asleep := t.asleep ++ [⟨t.now + delay, r⟩] }

/-- See to what the next step of a task needs.  What is told before that
step is told now, and not when what it needs has happened. -/
def serve (t : Timeline) (id : TaskId) (task : Task) : Timeline :=
  let t := { t with notices := t.notices ++ task.before }
  match task.need t.tracker.policy with
  | .nothing => t.after 0 ⟨id, task, some none⟩
  | .pause delay => t.after delay ⟨id, task, some none⟩
  | .instant deadline => t.after (deadline - t.now) ⟨id, task, some none⟩
  | .call kind =>
    let n := (t.calls.get? kind).getD 0 + 1
    let (delay, refusal) := t.conduct kind n
    { t with calls := t.calls.insert kind n }.after delay ⟨id, task, some refusal⟩

/-- Let the next task make one step. -/
def turn (t : Timeline) : Timeline :=
  match t.ready with
  | [] => t
  | r :: rest =>
    let t := { t with ready := rest }
    match r.served with
    | none => t.serve r.id r.task
    | some refusal =>
      let s := r.task.step t.clock t.tracker refusal
      let t := { t with tracker := s.tracker, notices := t.notices ++ s.notices }
      match s.progress with
      | .running task => t.serve r.id task
      | .ended result => { t with results := (r.id, result) :: t.results }

/-- As many nodes as a snapshot can find, now or later. -/
def nodes (t : Timeline) : Nat :=
  t.tracker.registry.size + t.ready.length + t.asleep.length

/-- A number of turns. -/
def turns : Nat → Timeline → Timeline
  | 0, t => t
  | n + 1, t => if t.ready.isEmpty then t else turns n t.turn

/-- Let the tasks that can go on do so until all of them wait. -/
def settle (t : Timeline) : Timeline :=
  turns (t.ready.foldl (fun steps r => steps + (r.task.bound t.nodes + 1)) 0) t

/-! ## 2. The clock -/

/-- When the next task wakes up. -/
def nextWake? (t : Timeline) : Option Nat :=
  (t.asleep.map Sleeping.wake).min?

/-- Move the clock to `instant` and wake the tasks that wait for it. -/
def wakeAt (t : Timeline) (instant : Nat) : Timeline :=
  let (due, asleep) := t.asleep.partition fun s => s.wake == instant
  { t with now := instant, asleep, ready := t.ready ++ due.map Sleeping.running }

/-- Let everything happen up to and including `instant`. -/
def advanceTo (t : Timeline) (instant : Nat) : Timeline :=
  let settled := t.settle
  match settled.nextWake? with
  | none => { settled with now := instant }
  | some wake =>
    if t.now < wake ∧ wake ≤ instant then (settled.wakeAt wake).advanceTo instant
    else { settled with now := instant }
termination_by instant - t.now
decreasing_by
  simp only [wakeAt]
  omega

/-- Let `delay` milliseconds pass. -/
def advance (t : Timeline) (delay : Nat) : Timeline :=
  t.advanceTo (t.now + delay)

/-- Move the clock on by `delay` milliseconds in one go: whatever is due
happens at the new time. -/
def jump (t : Timeline) (delay : Nat) : Timeline :=
  let now := t.now + delay
  let (due, asleep) := t.asleep.partition fun s => decide (s.wake ≤ now)
  let due := due.mergeSort fun a b => decide (a.wake ≤ b.wake)
  { t with now, asleep, ready := t.ready ++ due.map Sleeping.running }.settle

/-! ## 3. Tasks -/

/-- Put a task at the end of the queue. -/
def spawn (t : Timeline) (task : Task) : TaskId × Timeline :=
  (t.spawned, { t with spawned := t.spawned + 1, ready := t.ready ++ [⟨t.spawned, task, none⟩] })

/-- Put a task where it goes before all others. -/
def urge (t : Timeline) (id : TaskId) : Timeline :=
  let (urged, others) := t.ready.partition fun r => r.id == id
  { t with ready := urged ++ others }

/-- Turns for as long as they are those of one task. -/
def rush (id : TaskId) : Nat → Timeline → Timeline
  | 0, t => t
  | n + 1, t =>
    match t.ready with
    | [] => t
    | r :: _ => if r.id = id then rush id n t.turn else t

/-- Run a task before all others until it ends, with at most `rests`
rests. -/
def finish (id : TaskId) : (rests : Nat) → Timeline → Timeline
  | 0, t => t
  | rests + 1, t =>
    let t := rush id (rests + 2) (t.urge id)
    match t.wake? id with
    | none => t
    | some wake => finish id rests ((t.advanceTo (wake - 1)).wakeAt wake)

/-- Run a job at once: its result. -/
def call (t : Timeline) (job : Job) : Option Job.Result × Timeline :=
  let (id, t) := t.spawn (.job job)
  let t := finish id ((Task.job job).bound t.nodes + 1) t
  (t.result? id, t)

/-- Let time pass until a task has ended, with at most `rests` rests. -/
def waitFor (id : TaskId) : (rests : Nat) → Timeline → Timeline
  | 0, t => t
  | rests + 1, t =>
    let t := t.settle
    match t.wake? id with
    | none => t
    | some wake => waitFor id rests (t.advanceTo wake)

/-- The task with a name, if it has not ended. -/
def task? (t : Timeline) (id : TaskId) : Option Task :=
  ((t.ready ++ t.asleep.map Sleeping.running).find? fun r => r.id == id).map Running.task

/-- Wait for a task: its result. -/
def join (t : Timeline) (id : TaskId) : Option Job.Result × Timeline :=
  match t.task? id with
  | none => (t.result? id, t)
  | some task =>
    let t := waitFor id (task.bound t.nodes + 1) t
    (t.result? id, t)

/-- Tell a scheduler to stop.  If it waits for a tick, it goes on. -/
def stop (t : Timeline) (id : TaskId) : Timeline :=
  let tell (r : Running) : Running := if r.id = id then { r with task := r.task.stop } else r
  let asleep := t.asleep.map fun s => { s with running := tell s.running }
  let (woken, asleep) := asleep.partition fun s =>
    s.running.id == id && s.running.task.need t.tracker.policy == .nothing
  { t with asleep, ready := t.ready.map tell ++ woken.map Sleeping.running }

/-! ## 4. The session -/

/-- Let the session react.  The jobs that it starts are put into the
queue. -/
def react (t : Timeline) (reaction : Reaction → Reaction) : Reaction × Timeline :=
  let r := reaction { tracker := t.tracker, session := t.session }
  let t := { t with
    tracker := r.tracker, session := r.session, notices := t.notices ++ r.notices }
  (r, r.jobs.foldl (fun t job => (t.spawn (.job job)).2) t)

/-- The notices so far, and the timeline without them. -/
def takeNotices (t : Timeline) : List Notice × Timeline :=
  (t.notices, { t with notices := [] })

end Timeline

end NodeWatch
