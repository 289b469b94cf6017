/-
NodeWatch.Proofs.System.Basic — a tracker and its jobs, in every order.

A timeline runs its tasks in one order, that of its clock.  A system leaves
the order open: it is a tracker, a session and the jobs under way, and a
move is a message of the feed, a call on the tracker, or one step of one
job.  A step that calls the store comes when the call returns, with the
refusal that it meets, so the moves of a run are at once the order in which
everything happens and the pattern of what fails.

What happens is told in events.  An event says which job it belongs to and
what came back from the registry or the store; the events of a run, in
order, are its trace.  `Job.events` tells what the step of a job does and
is defined beside `Job.step`; that it tells the whole of it is the subject
of `NodeWatch.Proofs.System.Telling`.
-/
import NodeWatch.Feed.Session

namespace NodeWatch

/-- The name of a job: its place among all jobs. -/
abbrev JobId := Nat

/-! ## 1. Events -/

/-- What happens to a tracker. -/
inductive Event where
  /-- A ticket has been issued, and nothing has been begun with it. -/
  | issued (ticket : Ticket)
  /-- A node has been announced: its ticket has been issued, and the job
  creates its record. -/
  | announced (job : JobId) (ticket : Ticket) (node : Announcement)
  /-- A location has come in and has been left to a job. -/
  | located (job : JobId) (feedId : FeedId) (location : Location)
  /-- A block has come in; whether its node was tracked. -/
  | imported (feedId : FeedId) (block : Block) (known : Bool)
  /-- Gauges have come in; whether their node was tracked. -/
  | gauged (feedId : FeedId) (gauges : Gauges) (known : Bool)
  /-- A node has been removed; the statistics it had. -/
  | removed (feedId : FeedId) (previous : Option Tracked)
  /-- A record has been created, and its node is tracked from now on; the
  statistics that it replaces. -/
  | installed (job : JobId) (ticket : Ticket) (node : Announcement) (id : DurableId)
      (previous : Option Tracked)
  /-- A record has been created for a ticket that is no longer current. -/
  | superseded (job : JobId) (ticket : Ticket) (node : Announcement) (id : DurableId)
  /-- A record could not be created.  With a cause the ticket is given
  back; without one an overflow has ended the job. -/
  | uncreated (job : JobId) (ticket : Ticket) (cause : Option StoreError)
  /-- A job has looked up the node of its location. -/
  | looked (job : JobId) (feedId : FeedId) (found : Option DurableId)
  /-- The location of a record has been set, unless the store refused. -/
  | placed (job : JobId) (id : DurableId) (location : Location) (done : Bool)
  /-- A flush has taken its snapshot. -/
  | snapped (job : JobId) (now : Int64) (readings : List Reading)
  /-- A flush has made its attempt to append an entry. -/
  | appended (job : JobId) (entry : HistoryEntry) (done : Bool)
  /-- A job has ended. -/
  | ended (job : JobId) (result : Job.Result)

namespace Event

/-- The job that an event belongs to. -/
def job? : Event → Option JobId
  | issued _ => none
  | announced j _ _ => some j
  | located j _ _ => some j
  | imported _ _ _ => none
  | gauged _ _ _ => none
  | removed _ _ => none
  | installed j _ _ _ _ => some j
  | superseded j _ _ _ => some j
  | uncreated j _ _ => some j
  | looked j _ _ => some j
  | placed j _ _ _ => some j
  | snapped j _ _ => some j
  | appended j _ _ => some j
  | ended j _ => some j

/-- The kinds of work that events tell of. -/
inductive Work where
  /-- What is done at once. -/
  | feeding
  | announcing
  | locating
  /-- Setting the location of a record, which two kinds of jobs do. -/
  | placing
  | flushing
  | ending
  deriving DecidableEq

/-- The kind of work that an event tells of. -/
def work : Event → Work
  | issued _ => .feeding
  | announced _ _ _ => .announcing
  | located _ _ _ => .locating
  | imported _ _ _ => .feeding
  | gauged _ _ _ => .feeding
  | removed _ _ => .feeding
  | installed _ _ _ _ _ => .announcing
  | superseded _ _ _ _ => .announcing
  | uncreated _ _ _ => .announcing
  | looked _ _ _ => .locating
  | placed _ _ _ _ => .placing
  | snapped _ _ _ => .flushing
  | appended _ _ _ => .flushing
  | ended _ _ => .ending

end Event

/-- The kind of work that a job is. -/
def Job.work : Job → Event.Work
  | .announcing _ _ => .announcing
  | .attempting _ => .locating
  | .locating _ => .locating
  | .flushing _ => .flushing

/-! ## 2. What the step of a job tells -/

namespace Announcing

/-- What the next step of an announcement tells. -/
def events (j : JobId) (t : Tracker) (refusal : Refusal) : Announcing → List Event
  | .unbegun node => [.announced j (t.registry.issue node.feedId).1 node]
  | .creating ticket node =>
    match t.create refusal node.profile with
    | .error _ => [.uncreated j ticket none]
    | .ok (.error cause) => [.uncreated j ticket (some cause)]
    | .ok (.ok (id, _)) =>
      if t.registry.isCurrent ticket then
        [.installed j ticket node id (t.registry.get? ticket.feedId)]
      else [.superseded j ticket node id]
  | .placing _ id location => [.placed j id location (t.setLocation refusal id location).isOk]

end Announcing

namespace Locating

/-- What the next step on a location tells. -/
def events (j : JobId) (t : Tracker) (refusal : Refusal) : Locating → List Event
  | .looking task => [.looked j task.feedId (t.registry.durableId? task.feedId)]
  | .placing task id =>
    [.placed j id task.location (t.setLocation refusal id task.location).isOk]

end Locating

namespace Flushing

/-- What the next step of a flush tells. -/
def events (j : JobId) (t : Tracker) (refusal : Refusal) : Flushing → List Event
  | .unbegun now => [.snapped j now t.registry.snapshot.1]
  | .finding _ _ _ _ => []
  | .appending _ entry _ _ => [.appended j entry (t.append refusal entry).isOk]

end Flushing

namespace Job

/-- What is told of the progress of a job: only its end. -/
def ending (j : JobId) : Progress Job Result → List Event
  | .running _ => []
  | .ended result => [.ended j result]

/-- What the next step of a job tells of its work. -/
def story (j : JobId) (t : Tracker) (refusal : Refusal) : Job → List Event
  | .announcing _ a => a.events j t refusal
  | .attempting l => l.events j t refusal
  | .locating l => l.events j t refusal
  | .flushing f => f.events j t refusal

/-- What the next step of a job tells. -/
def events (j : JobId) (t : Tracker) (refusal : Refusal) (job : Job) : List Event :=
  job.story j t refusal ++ ending j (job.step t refusal).progress

/-- What is left of a job after a step. -/
def rest : Progress Job Result → Option Job
  | .running job => some job
  | .ended _ => none

end Job

/-! ## 3. Systems -/

/-- A tracker and a session, with the jobs that are under way. -/
structure System where
  tracker : Tracker
  session : Session
  jobs : Table JobId Job
  /-- How many jobs there have been. -/
  begun : Nat

/-- What may be asked of a tracker. -/
inductive Call where
  /-- Take the ticket of an announcement. -/
  | issue (feedId : FeedId)
  /-- Create the record of an announcement whose ticket has been taken. -/
  | complete (ticket : Ticket) (node : Announcement)
  /-- Take the ticket and create the record. -/
  | announce (node : Announcement)
  | block (feedId : FeedId) (block : Block)
  | gauges (feedId : FeedId) (gauges : Gauges)
  | remove (feedId : FeedId)
  /-- Set a location, in a single attempt. -/
  | attempt (feedId : FeedId) (location : Location)
  /-- Set a location, in as many attempts as it has. -/
  | locate (feedId : FeedId) (location : Location)
  | flush (now : Int64)

namespace Call

/-- What a call does to the registry at once. -/
def registry (r : Registry) : Call → Registry
  | .issue f => (r.issue f).2
  | .block f b => (r.recordBlock f b).2
  | .gauges f g => (r.setGauges f g).2
  | .remove f => (r.remove f).2
  | _ => r

/-- The job that a call begins. -/
def job? (policy : RetryPolicy) : Call → Option Job
  | .complete ticket node => some (.announcing false (.creating ticket node))
  | .announce node => some (.announcing false (.unbegun node))
  | .attempt f location => some (.attempting (.looking (.new f location policy)))
  | .locate f location => some (.locating (.looking (.new f location policy)))
  | .flush now => some (.flushing (.unbegun now))
  | _ => none

/-- What a call tells, if the next job has the name `j`. -/
def events (j : JobId) (r : Registry) : Call → List Event
  | .issue f => [.issued (r.issue f).1]
  | .block f b => [.imported f b (r.recordBlock f b).1]
  | .gauges f g => [.gauged f g (r.setGauges f g).1]
  | .remove f => [.removed f (r.remove f).1]
  | .attempt f location => [.located j f location]
  | .locate f location => [.located j f location]
  | _ => []

end Call

/-- The call that a message comes to, where it comes to one. -/
def Message.call? : Message → Option Call
  | .removedNode f => some (.remove f)
  | .locatedNode f location => some (.locate f location)
  | .importedBlock f block => some (.block f block)
  | .nodeStats f gauges => some (.gauges f gauges)
  | _ => none

/-- What a message tells, if the next job has the name `j`. -/
def Message.events (j : JobId) (r : Registry) (m : Message) : List Event :=
  match m with
  | .addedNode node => [.announced j (r.issue node.feedId).1 node]
  | m => (m.call?.map (Call.events j r)).getD []

/-- What may happen next. -/
inductive Move where
  /-- The session takes a message at an instant. -/
  | message (now : Nat) (m : Message)
  /-- Somebody else calls the tracker. -/
  | call (c : Call)
  /-- A job makes its next step; the refusal that its call on the store
  meets, if it waits for one. -/
  | step (j : JobId) (refusal : Refusal)

namespace System

/-- A system in which nothing has happened. -/
def start (store : Store) (policy : RetryPolicy) : System :=
  ⟨.ofStore store policy, .start, .empty, 0⟩

/-- Begin a job. -/
def begin (s : System) (job : Job) : System :=
  { s with jobs := s.jobs.insert s.begun job, begun := s.begun + 1 }

/-- The jobs after a step of one of them. -/
def proceed (jobs : Table JobId Job) (j : JobId) : Option Job → Table JobId Job
  | some job => jobs.insert j job
  | none => jobs.erase j

/-- What a move does, and what it tells. -/
def act (s : System) : Move → System × List Event
  | .message now m =>
    let r := Reaction.dispatch now { tracker := s.tracker, session := s.session } m
    (r.jobs.foldl begin { s with tracker := r.tracker, session := r.session },
      m.events s.begun s.tracker.registry)
  | .call c =>
    ((c.job? s.tracker.policy).toList.foldl begin
        { s with tracker := { s.tracker with registry := c.registry s.tracker.registry } },
      c.events s.begun s.tracker.registry)
  | .step j refusal =>
    match s.jobs.get? j with
    | none => (s, [])
    | some job =>
      let after := job.step s.tracker refusal
      ({ s with tracker := after.tracker, jobs := proceed s.jobs j (Job.rest after.progress) },
        job.events j s.tracker refusal)

end System

/-! ## 4. Runs -/

/-- A system, and what has been told of it so far. -/
structure History where
  system : System
  trace : List Event

namespace History

/-- The history of a system in which nothing has happened. -/
def start (store : Store) (policy : RetryPolicy) : History :=
  ⟨.start store policy, []⟩

/-- The history after another move. -/
def extend (h : History) (m : Move) : History :=
  ⟨(h.system.act m).1, h.trace ++ (h.system.act m).2⟩

/-- The history of a run. -/
def run (store : Store) (policy : RetryPolicy) (moves : List Move) : History :=
  moves.foldl extend (start store policy)

/-- The history after further moves. -/
def goOn (h : History) (moves : List Move) : History :=
  moves.foldl extend h

theorem run_append (store : Store) (policy : RetryPolicy) (a b : List Move) :
    run store policy (a ++ b) = (run store policy a).goOn b :=
  List.foldl_append

theorem goOn_append (h : History) (a b : List Move) : h.goOn (a ++ b) = (h.goOn a).goOn b :=
  List.foldl_append

theorem goOn_concat (h : History) (moves : List Move) (m : Move) :
    h.goOn (moves ++ [m]) = (h.goOn moves).extend m :=
  h.goOn_append moves [m]

/-- The registry at the end of a history. -/
def registry (h : History) : Registry :=
  h.system.tracker.registry

/-- The job with a name, if it is under way. -/
def job? (h : History) (j : JobId) : Option Job :=
  h.system.jobs.get? j

/-- What holds at the start and is kept by each allowed move holds at the
end of every run of allowed moves. -/
theorem run_induction {P : History → Prop} {allowed : Move → Prop} {store : Store}
    {policy : RetryPolicy} (start : P (start store policy))
    (extend : ∀ h m, allowed m → P h → P (h.extend m)) {moves : List Move}
    (h : ∀ m ∈ moves, allowed m) : P (run store policy moves) := by
  unfold run
  generalize History.start store policy = s at start
  induction moves generalizing s with
  | nil => exact start
  | cons m rest ih =>
    have kept := extend s m (h m List.mem_cons_self) start
    exact ih (fun n hn => h n (List.mem_cons_of_mem m hn)) _ kept

/-- What holds at the start and is kept by every move holds at the end of
every run. -/
theorem run_invariant {P : History → Prop} {store : Store} {policy : RetryPolicy}
    (start : P (start store policy)) (extend : ∀ h m, P h → P (h.extend m))
    (moves : List Move) : P (run store policy moves) := by
  have any : ∀ m ∈ moves, True := fun _ _ => trivial
  exact run_induction start (fun h m _ => extend h m) any

end History

/-! ## 5. A node for examples -/

/-- A block, of which only the time matters. -/
def exampleBlock (time : UInt64) : Block where
  number := 1
  hash := "0x01"
  time
  timestamp := 0
  propagation := none

/-- A place, of which only the city matters. -/
def exampleLocation (city : String) : Location :=
  ⟨.ofNat 0, .ofNat 0, city⟩

/-- The announcement of a node. -/
def exampleNode (f : FeedId) (location : Option Location) : Announcement where
  feedId := f
  profile := ⟨"node", "substrate", "1.0", none, none, none⟩
  gauges := ⟨3, 0⟩
  block := exampleBlock 6000
  location

end NodeWatch
