/-
NodeWatch.Proofs.Completion — how an announcement comes to its end.

An announcement that has its ticket makes one call to create its record, and,
with a record and a location, one more to set the location.  Whatever happens
while its calls take their time, its log from then on has one of six shapes
(`Completing`), and each of its two steps does to the tracker what the answer of
the store says: `RefusesRecord`, `CreatesRecord` or `SetsLocation`.

A ticket is current from when it is issued until it is installed, given back or
replaced, or its node is removed.  So a feed id is pending only with a ticket that
was issued and has not come back from the store since (`exists_unreturned`).

Main statement: in every run, a record that the store refuses to create leaves no
trace, but that its own ticket, if it is still current, is given back; a record that
is created is tracked just if the ticket is current then, whatever becomes of the
location; and where all announcements have come back, no feed id is pending
(`announcements_settle`).
-/
import Mathlib.Data.List.Induction
import NodeWatch.Proofs.System.Story

namespace NodeWatch

/-! ## 1. The shapes of a completion -/

/-- The log of a job from when it creates the record of an announcement on, with
what is left of the job. -/
inductive Completing (told : Bool) (j : JobId) (ticket : Ticket) (node : Announcement) :
    List Event → Option Job → Prop
  /-- The store has not answered yet. -/
  | creating : Completing told j ticket node [] (some (.announcing told (.creating ticket node)))
  /-- The record could not be created: that is the result, and no other call is
  made. -/
  | refused (cause : StoreError) :
      Completing told j ticket node
        [.uncreated j ticket (some cause), .ended j (.announced (.error cause))] none
  /-- There was no answer: the store has run out of ids. -/
  | lost (cause : Overflow) :
      Completing told j ticket node [.uncreated j ticket none, .ended j (.lost cause)] none
  /-- The record has been created, and there is no location to set. -/
  | created {e : Event} {d : DurableId} (created : e.Creates j ticket node d)
      (carried : node.location = none) :
      Completing told j ticket node [e, .ended j (.announced (.ok d))] none
  /-- The record has been created, and its location is being set. -/
  | placing {e : Event} {d : DurableId} {location : Location}
      (created : e.Creates j ticket node d) (carried : node.location = some location) :
      Completing told j ticket node [e] (some (.announcing told (.placing node d location)))
  /-- The location has been tried once, and its answer is the result. -/
  | placed {e : Event} {d : DurableId} {location : Location} (created : e.Creates j ticket node d)
      (carried : node.location = some location) (result : Except StoreError DurableId)
      (same : ∀ id, result = .ok id → id = d) :
      Completing told j ticket node
        [e, .placed j d location result.isOk, .ended j (.announced result)] none

namespace Completing

variable {told : Bool} {j : JobId} {ticket : Ticket} {node : Announcement}

/-- The store answers the call that creates the record. -/
theorem step_creating (t : Tracker) (refusal : Refusal) :
    Completing told j ticket node
      ((Job.announcing told (.creating ticket node)).events j t refusal)
      (Job.rest ((Job.announcing told (.creating ticket node)).step t refusal).progress) := by
  simp only [Job.events, Job.story, Job.step, Announcing.events, Announcing.step]
  cases t.create refusal node.profile with
  | error cause => exact .lost cause
  | ok answer =>
    cases answer with
    | error cause => exact .refused cause
    | ok made =>
      obtain ⟨d, t'⟩ := made
      obtain ⟨e, events, created⟩ := Event.exists_creates j t ticket node d
      simp only [events, Step.map]
      cases carried : node.location with
      | none => exact .created created carried
      | some location => exact .placing created carried

/-- The store answers the call that sets the location. -/
theorem step_placing {e : Event} {d : DurableId} {location : Location}
    (created : e.Creates j ticket node d) (carried : node.location = some location) (t : Tracker)
    (refusal : Refusal) :
    Completing told j ticket node
      ([e] ++ (Job.announcing told (.placing node d location)).events j t refusal)
      (Job.rest ((Job.announcing told (.placing node d location)).step t refusal).progress) := by
  simp only [Job.events, Job.story, Job.step, Announcing.events, Announcing.step]
  cases t.setLocation refusal d location with
  | error cause => exact .placed created carried (.error cause) (by simp)
  | ok t' =>
    refine .placed created carried (.ok d) ?_
    rintro id ⟨⟩
    rfl

theorem step (t : Tracker) (refusal : Refusal) (job : Job) (log : List Event)
    (stands : Completing told j ticket node log (some job)) :
    Completing told j ticket node (log ++ job.events j t refusal)
      (Job.rest (job.step t refusal).progress) := by
  cases stands with
  | creating => exact step_creating t refusal
  | placing created carried => exact step_placing created carried t refusal

end Completing

/-! ## 2. The two steps of a completion -/

namespace History

/-- What becomes of a history when the store refuses to create a record. -/
structure RefusesRecord (h h' : History) (j : JobId) (ticket : Ticket) (cause : StoreError) :
    Prop where
  /-- The refusal is the result. -/
  told : h'.trace =
    h.trace ++ [.uncreated j ticket (some cause), .ended j (.announced (.error cause))]
  finished : h'.job? j = none
  store : h'.system.tracker.store = h.system.tracker.store
  /-- No feed id has other statistics than before. -/
  tracked : ∀ f, h'.registry.get? f = h.registry.get? f
  /-- The ticket is given back if it is still current, and no other is. -/
  pending : ∀ f, h'.registry.ticket? f =
    if h.registry.isCurrent ticket = true ∧ ticket.feedId = f then none else h.registry.ticket? f
  /-- Another ticket that is current stays so, be it of the same feed id, and its
  node is tracked once its record has been created. -/
  newer : ∀ other, other ≠ ticket → h.registry.isCurrent other = true →
    h'.registry.isCurrent other = true ∧
    ∀ k told node refusal d t, k ≠ j → h.job? k = some (.announcing told (.creating other node)) →
      h'.system.tracker.create refusal node.profile = .ok (.ok (d, t)) →
      (h'.extend (.step k refusal)).registry.get? other.feedId = some (node.tracked d)

/-- What becomes of a history when the store has created a record. -/
structure CreatesRecord (h h' : History) (j : JobId) (told : Bool) (ticket : Ticket)
    (node : Announcement) (d : DurableId) : Prop where
  store : h'.system.tracker.store = h.system.tracker.store.created node.profile
  /-- The node is tracked just if its ticket is current, and nobody else is
  touched. -/
  tracked : ∀ f, h'.registry.get? f =
    if h.registry.isCurrent ticket = true ∧ ticket.feedId = f then some (node.tracked d)
    else h.registry.get? f
  /-- A current ticket has been used, and no other is touched. -/
  pending : ∀ f, h'.registry.ticket? f =
    if h.registry.isCurrent ticket = true ∧ ticket.feedId = f then none else h.registry.ticket? f
  /-- The location is set next if there is one, whether the ticket was current or
  not. -/
  next : h'.job? j = node.location.map fun location => .announcing told (.placing node d location)

/-- What becomes of a history when the store answers the call that sets a
location. -/
structure SetsLocation (h h' : History) (j : JobId) (d : DurableId) (location : Location)
    (answer : Except StoreError Tracker) : Prop where
  /-- A refusal is the result, and so is the id of the record otherwise. -/
  told : h'.trace = h.trace ++ [.placed j d location answer.isOk,
    .ended j (.announced (answer.map fun _ => d))]
  finished : h'.job? j = none
  /-- Whether a node is tracked does not depend on its location. -/
  registry : h'.registry = h.registry

variable {h : History} {j : JobId} {told : Bool} {ticket : Ticket} {node : Announcement}
  {refusal : Refusal} {d : DurableId}

theorem tracker_own {job : Job} (found : h.job? j = some job) (refusal : Refusal) :
    (h.extend (.step j refusal)).system.tracker = (job.step h.system.tracker refusal).tracker := by
  rw [job?] at found
  simp [extend, System.act, found]

/-- A step of a job leaves the other jobs where they are. -/
theorem job?_beside {k : JobId} (apart : k ≠ j) (refusal : Refusal) :
    (h.extend (.step j refusal)).job? k = h.job? k := by
  cases found : h.job? j with
  | none => rw [extend_over found]
  | some job =>
    rw [job?] at found
    simp [extend, job?, System.act, found, System.get?_proceed, Ne.symm apart]

theorem creates {t : Tracker} (found : h.job? j = some (.announcing told (.creating ticket node)))
    (made : h.system.tracker.create refusal node.profile = .ok (.ok (d, t))) :
    CreatesRecord h (h.extend (.step j refusal)) j told ticket node d := by
  obtain ⟨left, -, -⟩ := extend_own found refusal
  have tracker := tracker_own found refusal
  obtain ⟨-, after⟩ := Tracker.create_ok made
  simp only [Job.step, Announcing.step, made, Step.map, Announcing.install, after] at left tracker
  refine ⟨?_, ?_, ?_, ?_⟩
  · rw [tracker]
  · intro f
    rw [registry, tracker]
    exact Registry.get?_install_eq _ _ _ f
  · intro f
    rw [registry, tracker]
    exact Registry.ticket?_install_eq _ _ _ f
  · rw [left]
    cases node.location <;> rfl

theorem refuses {cause : StoreError}
    (found : h.job? j = some (.announcing told (.creating ticket node)))
    (refused : h.system.tracker.create refusal node.profile = .ok (.error cause)) :
    RefusesRecord h (h.extend (.step j refusal)) j ticket cause := by
  obtain ⟨left, trace, -⟩ := extend_own found refusal
  have tracker := tracker_own found refusal
  simp only [Job.step, Job.events, Job.story, Announcing.events, Announcing.step, refused, Step.map]
    at left trace tracker
  have pending (f : FeedId) : (h.extend (.step j refusal)).registry.ticket? f =
      if h.registry.isCurrent ticket = true ∧ ticket.feedId = f then none
      else h.registry.ticket? f := by
    rw [registry, tracker]
    exact Registry.ticket?_abandon _ _ f
  refine ⟨trace, left, by rw [tracker], ?_, pending, ?_⟩
  · intro f
    rw [registry, tracker]
    exact Registry.get?_abandon _ _ f
  · intro other apart current
    have kept : (h.extend (.step j refusal)).registry.isCurrent other = true := by
      have elsewhere : ¬ (h.registry.isCurrent ticket = true ∧ ticket.feedId = other.feedId) :=
        fun both => apart (Registry.eq_of_isCurrent current both.1 both.2.symm)
      rw [Registry.isCurrent_iff, pending, if_neg elsewhere, ← Registry.isCurrent_iff]
      exact current
    refine ⟨kept, ?_⟩
    intro k told' node' refusal' d t beside stands made
    rw [← job?_beside beside refusal] at stands
    rw [(creates stands made).tracked, if_pos ⟨kept, rfl⟩]

theorem sets {location : Location}
    (found : h.job? j = some (.announcing told (.placing node d location))) :
    SetsLocation h (h.extend (.step j refusal)) j d location
      (h.system.tracker.setLocation refusal d location) := by
  obtain ⟨left, trace, -⟩ := extend_own found refusal
  have tracker := tracker_own found refusal
  simp only [Job.step, Job.events, Job.story, Announcing.events, Announcing.step]
    at left trace tracker
  cases answer : h.system.tracker.setLocation refusal d location with
  | error cause =>
    rw [answer] at left trace tracker
    exact ⟨trace, left, congrArg Tracker.registry tracker⟩
  | ok t =>
    rw [answer] at left trace tracker
    obtain ⟨-, rfl⟩ := Tracker.setLocation_ok answer
    refine ⟨trace, left, ?_⟩
    rw [registry, tracker]
    rfl

end History

/-! ## 3. Pending feed ids -/

/-- The ticket whose record the store has created, or refused to create. -/
def Event.returned? : Event → Option Ticket
  | .installed _ ticket _ _ _ => some ticket
  | .superseded _ ticket _ _ => some ticket
  | .uncreated _ ticket (some _) => some ticket
  | _ => none

/-- A number under which a feed id is pending after an event has just been issued,
or the feed id was pending under it before and it has not come back now. -/
theorem Event.ticket_kept {t : Tracker} {e : Event} (fits : e.Fits t) {f : FeedId} {n : Nat}
    (old : e.issued? ≠ some ⟨f, n⟩) (h : e.ticket f (t.registry.ticket? f) = some n) :
    t.registry.ticket? f = some n ∧ e.returned? ≠ some ⟨f, n⟩ := by
  have issues (ticket : Ticket) (other : some ticket ≠ some ⟨f, n⟩)
      (same : (if ticket.feedId = f then some ticket.number else t.registry.ticket? f) = some n) :
      t.registry.ticket? f = some n := by
    split at same
    · next own =>
      rw [← own, ← Option.some.inj same] at other
      exact absurd rfl other
    · exact same
  cases e with
  | issued ticket => exact ⟨issues ticket old h, by simp [returned?]⟩
  | announced j ticket node => exact ⟨issues ticket old h, by simp [returned?]⟩
  | removed g previous =>
    simp only [ticket] at h
    split at h
    · cases h
    · exact ⟨h, by simp [returned?]⟩
  | installed j ticket node id previous =>
    simp only [Event.ticket] at h
    split at h
    · cases h
    · next other =>
      refine ⟨h, ?_⟩
      rintro ⟨⟩
      exact other rfl
  | superseded j ticket node id =>
    refine ⟨h, ?_⟩
    rintro ⟨⟩
    have current : t.registry.isCurrent ⟨f, n⟩ = true := Registry.isCurrent_iff.2 h
    rw [fits.1] at current
    cases current
  | uncreated j ticket cause =>
    cases cause with
    | none => exact ⟨h, by simp [returned?]⟩
    | some cause =>
      simp only [Event.ticket] at h
      split at h
      · cases h
      · next other =>
        refine ⟨h, ?_⟩
        rintro ⟨⟩
        exact other ⟨rfl, h⟩
  | _ => exact ⟨h, by simp [returned?]⟩

namespace Tells

variable {store : Store} {policy : RetryPolicy} {trace : List Event}

/-- A feed id that is pending has a ticket that was issued and has not come back
since. -/
theorem exists_unreturned (told : Tells (.ofStore store policy) trace) {f : FeedId} {n : Nat}
    (h : ((Tracker.ofStore store policy).after trace).registry.ticket? f = some n) :
    ∃ a e b, trace = a ++ e :: b ∧ e.issued? = some ⟨f, n⟩ ∧
      ∀ e' ∈ b, e'.returned? ≠ some ⟨f, n⟩ := by
  induction trace using List.reverseRecOn generalizing n with
  | nil => cases h
  | append_singleton trace e ih =>
    obtain ⟨told, fits, -⟩ := tells_append.1 told
    rw [Tracker.after_append, Tracker.after_cons, Tracker.after_nil,
      Tracker.ticket?_follow fits] at h
    by_cases new : e.issued? = some ⟨f, n⟩
    · exact ⟨trace, e, [], rfl, new, List.forall_mem_nil _⟩
    · obtain ⟨before, apart⟩ := Event.ticket_kept fits new h
      obtain ⟨a, issue, b, rfl, issued, since⟩ := ih told before
      refine ⟨a, issue, b ++ [e], by simp, issued, ?_⟩
      intro e' member
      rcases List.mem_append.1 member with old | last
      · exact since e' old
      · rw [List.mem_singleton.1 last]
        exact apart

end Tells

/-! ## 4. Announcements -/

namespace History

/-- What announcements come to, from some point of a run on. -/
structure Settles (h : History) : Prop where
  /-- Any ticket may be completed with any node, and nothing is done before the
  store is called. -/
  begins : ∀ ticket node,
    (h.extend (.call (.complete ticket node))).job? h.system.begun =
        some (.announcing false (.creating ticket node)) ∧
      (h.extend (.call (.complete ticket node))).system.tracker = h.system.tracker
  /-- Whatever happens in between, a completion makes its calls and has its
  result. -/
  completes : ∀ j told ticket node, h.job? j = some (.announcing told (.creating ticket node)) →
    ∀ later, ∃ log, logOf j (h.goOn later).trace = logOf j h.trace ++ log ∧
      Completing told j ticket node log ((h.goOn later).job? j)
  /-- A record that the store refuses to create leaves no trace. -/
  refuses : ∀ j told ticket node refusal cause,
    h.job? j = some (.announcing told (.creating ticket node)) →
    h.system.tracker.create refusal node.profile = .ok (.error cause) →
    RefusesRecord h (h.extend (.step j refusal)) j ticket cause
  /-- A record that is created is tracked if its ticket is current. -/
  creates : ∀ j told ticket node refusal d t,
    h.job? j = some (.announcing told (.creating ticket node)) →
    h.system.tracker.create refusal node.profile = .ok (.ok (d, t)) →
    CreatesRecord h (h.extend (.step j refusal)) j told ticket node d
  /-- The call that sets the location has no part in that. -/
  sets : ∀ j told node d location refusal,
    h.job? j = some (.announcing told (.placing node d location)) →
    SetsLocation h (h.extend (.step j refusal)) j d location
      (h.system.tracker.setLocation refusal d location)
  /-- Where every ticket has come back from the store since it was issued, no feed
  id is pending. -/
  settled : (∀ a e b ticket, h.trace = a ++ e :: b → e.issued? = some ticket →
      ∃ e' ∈ b, e'.returned? = some ticket) →
    ∀ f, h.registry.isPending f = false
  /-- The tickets fit words of 64 bits, with fewer than `2 ^ 64` announcements. -/
  words : h.registry.WordsSuffice (h.trace.filterMap Event.issued?)

/-- Announcements settle, in every run. -/
theorem announcements_settle (store : Store) (policy : RetryPolicy) (moves : List Move) :
    Settles (run store policy moves) := by
  have named := run_named store policy moves
  refine ⟨?_, ?_, fun j told ticket node refusal cause => refuses,
    fun j told ticket node refusal d t => creates, fun j told node d location refusal => sets, ?_,
    run_wordsSuffice store policy moves⟩
  · intro ticket node
    exact ⟨Table.get?_insert_self _ _ _, rfl⟩
  · intro j told ticket node found later
    refine goOn_log Completing.step (named.lt_of_job? found) (List.append_nil _).symm ?_ later
    rw [found]
    exact .creating
  · intro returned f
    obtain ⟨told, follows⟩ := run_tells store policy moves
    rw [Registry.isPending_eq, registry, follows]
    cases pending : ((Tracker.ofStore store policy).after
        (run store policy moves).trace).registry.ticket? f with
    | none => rfl
    | some n =>
      obtain ⟨a, e, b, place, issued, since⟩ := told.exists_unreturned pending
      obtain ⟨e', member, back⟩ := returned a e b _ place issued
      exact absurd back (since e' member)

end History

end NodeWatch
