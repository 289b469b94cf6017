/-
NodeWatch.Feed.Session — what the messages of the feed lead to.

Counters are updated at once.  An announcement takes its ticket at once,
in the order of the feed, and leaves the rest to a job; a location is a
job from the beginning.  Nothing here waits for the store, so a frame is
handled in one go.

A frame or a message that cannot be decoded is noticed and left out, and
so is news of a node that is not tracked.  Only a pong that answers no
ping, or a ping that was not answered, is a fault, and what comes after a
fault has no effect.
-/
import NodeWatch.Feed.KeepAlive
import NodeWatch.Tracker.Job

namespace NodeWatch

/-- A session with the feed. -/
structure Session where
  keepAlive : KeepAlive
  /-- Whether no node has been announced yet. -/
  awaitingFirstNode : Bool
  deriving DecidableEq, Repr

/-- A session in which nothing has happened. -/
def Session.start : Session := ⟨.start, true⟩

/-- What a session has come to. -/
structure Reaction where
  tracker : Tracker
  session : Session
  notices : List Notice := []
  /-- The jobs that were started, in order. -/
  jobs : List Job := []
  /-- The commands that were sent, in order. -/
  sent : List String := []
  /-- What has ended the session. -/
  fault : Option FeedError := none

namespace Reaction

/-- With another notice. -/
def notice (r : Reaction) (n : Notice) : Reaction :=
  { r with notices := r.notices ++ [n] }

/-- With another notice, if there is reason for it. -/
def noticeIf (r : Reaction) (reason : Bool) (n : Notice) : Reaction :=
  { r with notices := r.notices ++ bif reason then [n] else [] }

/-- With another job. -/
def begin (r : Reaction) (job : Job) : Reaction :=
  { r with jobs := r.jobs ++ [job] }

/-- With another command. -/
def send (r : Reaction) (command : String) : Reaction :=
  { r with sent := r.sent ++ [command] }

/-- With another registry. -/
def withRegistry (r : Reaction) (registry : Registry) : Reaction :=
  { r with tracker := { r.tracker with registry } }

/-- With another keep-alive. -/
def withKeepAlive (r : Reaction) (keepAlive : KeepAlive) : Reaction :=
  { r with session := { r.session with keepAlive } }

/-- The first announcement of a session is noticed. -/
def noticeFirst (r : Reaction) (node : Announcement) : Reaction :=
  if r.session.awaitingFirstNode then
    { r.notice (.firstNode node.profile.name) with
      session := { r.session with awaitingFirstNode := false } }
  else r

/-- What an announcement leads to. -/
def announce (r : Reaction) (node : Announcement) : Reaction :=
  let r := r.noticeFirst node
  let (ticket, registry) := r.tracker.registry.issue node.feedId
  (r.withRegistry registry).begin (.announcing true (.creating ticket node))

/-- An announcement ends the wait for a first node, takes a ticket and begins a
job. -/
theorem announce_eq (r : Reaction) (node : Announcement) :
    r.announce node =
      { r with
        tracker := { r.tracker with registry := (r.tracker.registry.issue node.feedId).2 }
        session := { r.session with awaitingFirstNode := false }
        notices := r.notices ++
          bif r.session.awaitingFirstNode then [.firstNode node.profile.name] else []
        jobs := r.jobs ++
          [.announcing true (.creating (r.tracker.registry.issue node.feedId).1 node)] } := by
  obtain ⟨tracker, ⟨keepAlive, awaiting⟩, notices, jobs, sent, fault⟩ := r
  cases awaiting <;> simp [announce, noticeFirst, notice, begin, withRegistry]

/-- What a pong leads to at the instant `now`. -/
def pong (now : Nat) (r : Reaction) (label : String) : Reaction :=
  match r.session.keepAlive.pong label now with
  | .ok (roundTrip, keepAlive) => (r.withKeepAlive keepAlive).notice (.pongTaken label roundTrip)
  | .error fault => { r with fault := some fault }

/-- What a message leads to at the instant `now`. -/
def dispatch (now : Nat) (r : Reaction) : Message → Reaction
  | .feedVersion version => r.notice (.feedVersion version)
  | .subscribedTo label => r.notice (.subscribed label)
  | .addedNode node => r.announce node
  | .removedNode feedId =>
    let removed := r.tracker.registry.remove feedId
    (r.withRegistry removed.2).noticeIf removed.1.isSome (.nodeLeft feedId)
  | .staleNode feedId => r.notice (.nodeStale feedId)
  | .locatedNode feedId location =>
    r.begin (.locating (.looking (.new feedId location r.tracker.policy)))
  | .importedBlock feedId block =>
    let recorded := r.tracker.registry.recordBlock feedId block
    (r.withRegistry recorded.2).noticeIf (!recorded.1) (.blockDropped feedId block.number)
  | .nodeStats feedId gauges =>
    let replaced := r.tracker.registry.setGauges feedId gauges
    (r.withRegistry replaced.2).noticeIf (!replaced.1) (.gaugesDropped feedId)
  | .pong label => r.pong now label
  | .ignored action => r.notice (.actionIgnored action)
  | .unknown code => r.notice (.codeIgnored code)

/-- What an entry of a frame leads to.  After a fault it leads to
nothing. -/
def take (now : Nat) (r : Reaction) (entry : Except DecodeError Message) : Reaction :=
  if r.fault.isSome then r
  else match entry with
    | .ok message => r.dispatch now message
    | .error cause => r.notice (.messageSkipped cause)

/-- What a frame leads to. -/
def takeFrame (now : Nat) (r : Reaction) (frame : String) : Reaction :=
  if r.fault.isSome then r
  else match Message.ofFrame frame with
    | .ok entries => entries.foldl (take now) r
    | .error cause => r.notice (.frameSkipped cause)

/-- Send the next ping at the instant `now`. -/
def ping (now : Nat) (r : Reaction) : Reaction :=
  match r.session.keepAlive.ping now with
  | .ok (id, keepAlive) =>
    ((r.withKeepAlive keepAlive).notice (.pinging id)).send (Command.ping id)
  | .error fault => { r with fault := some fault }

end Reaction

end NodeWatch
