/-
NodeWatch.Tracker.Announcing — from an announcement to a tracked node.

An announcement takes its ticket at once.  Then its record is created in
the store, and with the answer the node is installed, if the ticket is
still current; last the announced location is set, whether the node has
been installed or not.

A record that cannot be created gives the ticket back and ends the job.
A location that cannot be set ends the job with an error, but the node
stays installed.
-/
import NodeWatch.Tracker.Basic

namespace NodeWatch

/-- Where the work on an announcement stands. -/
inductive Announcing where
  /-- Nothing has been done. -/
  | unbegun (node : Announcement)
  /-- The record is being created. -/
  | creating (ticket : Ticket) (node : Announcement)
  /-- The record has been created, and its location is being set. -/
  | placing (node : Announcement) (id : DurableId) (location : Location)
  deriving DecidableEq, Repr

namespace Announcing

/-- The node that is announced. -/
def node : Announcing → Announcement
  | .unbegun node => node
  | .creating _ node => node
  | .placing node _ _ => node

/-- What must happen before the next step. -/
def need : Announcing → Need
  | .unbegun _ => .nothing
  | .creating _ _ => .call .create
  | .placing _ _ _ => .call .setLocation

/-- Install the node of a record that has just been created. -/
def install (t : Tracker) (ticket : Ticket) (node : Announcement) (id : DurableId) : Tracker :=
  { t with
    registry := (t.registry.install ticket (.ofAnnouncement id node.gauges node.block)).2 }

/-- What is told before the next step. -/
def before : Announcing → List Notice
  | .creating _ node => [.adding node.feedId node.profile.name]
  | _ => []

/-- What is told of a node whose record has just been created. -/
def installNotices (t : Tracker) (ticket : Ticket) (node : Announcement) (id : DurableId) :
    List Notice :=
  if t.registry.isCurrent ticket then
    (t.registry.durableId? ticket.feedId).toList.map (.reannounced ticket.feedId)
  else [.notTracked node.feedId id]

/-- The next step.  The result is the id of the record; an id that does
not fit its word ends the job with the ticket still out. -/
def step (t : Tracker) (refusal : Refusal) :
    Announcing → Step Announcing (Except Overflow (Except StoreError DurableId))
  | .unbegun node =>
    let (ticket, registry) := t.registry.issue node.feedId
    { tracker := { t with registry }, progress := .running (.creating ticket node) }
  | .creating ticket node =>
    match t.create refusal node.profile with
    | .error cause => { tracker := t, progress := .ended (.error cause) }
    | .ok (.error cause) =>
      { tracker := { t with registry := t.registry.abandon ticket }
        progress := .ended (.ok (.error cause)) }
    | .ok (.ok (id, t)) =>
      { tracker := install t ticket node id
        progress := match node.location with
          | some location => .running (.placing node id location)
          | none => .ended (.ok (.ok id))
        notices := installNotices t ticket node id }
  | .placing _ id location =>
    match t.setLocation refusal id location with
    | .error cause => { tracker := t, progress := .ended (.ok (.error cause)) }
    | .ok t => { tracker := t, progress := .ended (.ok (.ok id)) }

end Announcing

end NodeWatch
