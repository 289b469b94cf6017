/-
NodeWatch.Proofs.Identity — tracked nodes and their records.

A node is tracked in the registry under its feed id, and its record is kept
in the store under a durable id.  The two are never changed in one step:
records are created before the registry knows of them, some for
announcements that have been overtaken, and nodes are removed while their
records stay.

Main statement: at any point of any run every tracked node names a record of
its own, created for the announcement that installed the node with the
current ticket of its feed id; there are as many records as announcements
that created one; and none is ever lost or changed into another
(`identities_hold`).  So a snapshot is strictly in the order of durable ids,
and no store refuses the entry of a flush for want of a record.
-/
import NodeWatch.Proofs.System.Attribution
import NodeWatch.Proofs.System.Story

namespace NodeWatch

/-! ## 1. Tickets of installations -/

namespace Tells

variable {store : Store} {policy : RetryPolicy} {trace : List Event}

/-- The current ticket of a feed id has been issued for it. -/
theorem issued_of_ticket? (told : Tells (.ofStore store policy) trace) {f : FeedId} {n : Nat}
    (h : ((Tracker.ofStore store policy).after trace).registry.ticket? f = some n) :
    ∃ e ∈ trace, e.issued? = some ⟨f, n⟩ := by
  induction trace using List.reverseRecOn with
  | nil => cases h
  | append_singleton trace e ih =>
    obtain ⟨told, fits, -⟩ := tells_append.1 told
    rw [Tracker.after_append, Tracker.after_cons, Tracker.after_nil,
      Tracker.ticket?_follow fits] at h
    have earlier : ((Tracker.ofStore store policy).after trace).registry.ticket? f = some n →
        ∃ e' ∈ trace ++ [e], e'.issued? = some ⟨f, n⟩ := by
      intro before
      obtain ⟨e', member, issued⟩ := ih told before
      exact ⟨e', List.mem_append_left _ member, issued⟩
    have here : e.issued? = some ⟨f, n⟩ → ∃ e' ∈ trace ++ [e], e'.issued? = some ⟨f, n⟩ :=
      fun issued => ⟨e, List.mem_append_right _ List.mem_cons_self, issued⟩
    cases e with
    | issued ticket =>
      simp only [Event.ticket] at h
      split at h
      · next own =>
        cases h
        subst own
        exact here rfl
      · exact earlier h
    | announced j ticket node =>
      simp only [Event.ticket] at h
      split at h
      · next own =>
        cases h
        subst own
        exact here rfl
      · exact earlier h
    | removed g previous =>
      simp only [Event.ticket] at h
      split at h
      · cases h
      · exact earlier h
    | installed j ticket node id previous =>
      simp only [Event.ticket] at h
      split at h
      · cases h
      · exact earlier h
    | uncreated j ticket cause =>
      cases cause with
      | none => exact earlier h
      | some cause =>
        simp only [Event.ticket] at h
        split at h
        · cases h
        · exact earlier h
    | _ => exact earlier h

end Tells

/-! ## 2. One record for each announcement -/

namespace Event

/-- The job that a record has been created by. -/
def creator? : Event → Option JobId
  | installed j _ _ _ _ => some j
  | superseded j _ _ _ => some j
  | _ => none

/-- The id that a node has been installed with. -/
def installedId? : Event → Option DurableId
  | installed _ _ _ id _ => some id
  | _ => none

theorem job?_of_creator? {e : Event} {j : JobId} (h : e.creator? = some j) : e.job? = some j := by
  cases e with
  | installed k ticket node id previous => exact h
  | superseded k ticket node id => exact h
  | _ => cases h

theorem creator?_eq_none {e : Event} (h : e.work ≠ .announcing) : e.creator? = none := by
  cases e with
  | installed j ticket node id previous => exact absurd rfl h
  | superseded j ticket node id => exact absurd rfl h
  | _ => rfl

end Event

/-- Whether what is left of a job may still create a record. -/
def Job.MayCreate : Option Job → Prop
  | some (.announcing _ (.unbegun _)) => True
  | some (.announcing _ (.creating _ _)) => True
  | _ => False

theorem creators_aside {events : List Event} (h : ∀ e ∈ events, e.work ≠ .announcing) :
    events.filterMap Event.creator? = [] :=
  List.filterMap_eq_nil_iff.2 fun e he => Event.creator?_eq_none (h e he)

theorem creators_ending (j : JobId) (progress : Progress Job Job.Result) :
    (Job.ending j progress).filterMap Event.creator? = [] := by
  cases progress <;> rfl

/-- A step creates no record, or the only one that its job ever creates. -/
theorem Job.creators_step (j : JobId) (t : Tracker) (refusal : Refusal) (job : Job) :
    ((job.events j t refusal).filterMap Event.creator? = [] ∧
        (MayCreate (rest (job.step t refusal).progress) → MayCreate (some job))) ∨
      ((job.events j t refusal).filterMap Event.creator? = [j] ∧ MayCreate (some job) ∧
        ¬ MayCreate (rest (job.step t refusal).progress)) := by
  by_cases other : job.work = .announcing
  · cases job with
    | announcing told a =>
      rw [events, List.filterMap_append, creators_ending, List.append_nil]
      cases a with
      | unbegun node => exact Or.inl ⟨rfl, fun _ => trivial⟩
      | creating ticket node =>
        simp only [story, Announcing.events, step, Announcing.step]
        cases t.create refusal node.profile with
        | error cause => exact Or.inl ⟨rfl, fun _ => trivial⟩
        | ok answer =>
          cases answer with
          | error cause => exact Or.inl ⟨rfl, fun _ => trivial⟩
          | ok made =>
            refine Or.inr ⟨?_, trivial, ?_⟩
            · simp only
              split <;> rfl
            · cases location : node.location <;> simp [Step.map, rest, MayCreate]
      | placing node id location =>
        refine Or.inl ⟨rfl, ?_⟩
        simp only [step, Announcing.step]
        cases t.setLocation refusal id location <;> exact False.elim
    | _ => cases other
  · refine Or.inl ⟨?_, ?_⟩
    · refine creators_aside ?_
      intro e member work
      rcases (of_mem_events member).2 with own | ⟨placing, -⟩ | ending
      · exact other (own.symm.trans work)
      · rw [placing] at work
        cases work
      · rw [ending] at work
        cases work
    · intro creates
      cases left : rest (job.step t refusal).progress with
      | none =>
        rw [left] at creates
        cases creates
      | some job' =>
        have work := work_rest left
        rw [left] at creates
        cases job' with
        | announcing told a => exact absurd work.symm other
        | _ => cases creates

/-- What is told of a move that is no step is told before any store is
called. -/
theorem Move.creator?_of_mem_events {j : JobId} {r : Registry} {m : Move} {e : Event}
    (h : e ∈ m.events j r) : e.creator? = none := by
  cases m with
  | message now m =>
    cases m with
    | addedNode node => cases List.mem_singleton.1 h; rfl
    | removedNode f => cases List.mem_singleton.1 h; rfl
    | locatedNode f location => cases List.mem_singleton.1 h; rfl
    | importedBlock f b => cases List.mem_singleton.1 h; rfl
    | nodeStats f g => cases List.mem_singleton.1 h; rfl
    | _ => cases h
  | call c =>
    cases c with
    | complete ticket node => cases h
    | announce node => cases h
    | flush now => cases h
    | _ => cases List.mem_singleton.1 h; rfl
  | step k refusal => cases h

/-- No job creates two records. -/
theorem logs_creators : History.Logs (fun _ => True) fun _ log left =>
    (log.filterMap Event.creator?).length ≤ 1 ∧
      (Job.MayCreate left → log.filterMap Event.creator? = []) := by
  constructor
  · exact fun _ => ⟨Nat.zero_le 1, fun _ => rfl⟩
  · intro j t m job _ begins
    have none : (m.events j t.registry).filterMap Event.creator? = [] :=
      List.filterMap_eq_nil_iff.2 fun e member => Move.creator?_of_mem_events member
    rw [none]
    exact ⟨Nat.zero_le 1, fun _ => rfl⟩
  · rintro j t refusal job log ⟨atMost, before⟩
    rw [List.filterMap_append]
    rcases job.creators_step j t refusal with ⟨none, kept⟩ | ⟨one, may, finished⟩
    · rw [none, List.append_nil]
      exact ⟨atMost, fun creates => before (kept creates)⟩
    · rw [one, before may]
      exact ⟨Nat.le_refl 1, fun creates => absurd creates finished⟩

theorem Event.Creates.profile {j : JobId} {ticket : Ticket} {node : Announcement}
    {d : DurableId} {e : Event} (h : e.Creates j ticket node d) (before : Option Profile) :
    e.profile d before = some node.profile := by
  cases e with
  | installed k t n id previous =>
    obtain ⟨rfl, rfl, rfl, rfl⟩ := h
    exact if_pos rfl
  | superseded k t n id =>
    obtain ⟨rfl, rfl, rfl, rfl⟩ := h
    exact if_pos rfl
  | _ => cases h

/-! ## 3. Nodes and records -/

/-- Whether a store refuses a call because it has no such record. -/
def StoreError.LacksRecord : StoreError → Prop
  | .notFound _ => True
  | .database reason => .database reason = foreignKey

theorem StoreError.not_lacksRecord_numberTooLarge : ¬ numberTooLarge.LacksRecord := by
  intro h
  have texts := StoreError.database.inj h
  exact absurd texts (by decide)

namespace History

/-- How the tracked nodes and the records of a history belong together, when
it began with a store. -/
structure Identified (initial : Store) (h : History) : Prop where
  /-- A tracked node has been installed, with the ticket that had been
  issued for its feed id, and has neither been removed nor replaced since.
  It names a record, which tells what was announced of it. -/
  named : ∀ f s, h.registry.get? f = some s →
    ∃ before j ticket node previous life record,
      h.trace = before ++ .installed j ticket node s.durableId previous :: life ∧
        ticket.feedId = f ∧ (∃ e ∈ before, e.issued? = some ticket) ∧
        (∀ e ∈ life, e.ends f = false) ∧
        h.system.tracker.store.find s.durableId = some record ∧ record.profile = node.profile
  /-- No two tracked nodes name one record. -/
  distinct : ∀ f g s s', h.registry.get? f = some s → h.registry.get? g = some s' →
    s.durableId = s'.durableId → f = g
  /-- No id is installed twice. -/
  once : (h.trace.filterMap Event.installedId?).Nodup
  /-- There are as many records as have been created. -/
  counted : h.system.tracker.store.size =
    initial.size + (h.trace.filterMap Event.created?).length
  /-- They have been created by as many announcements. -/
  creators : (h.trace.filterMap Event.creator?).length =
      (h.trace.filterMap Event.created?).length ∧ (h.trace.filterMap Event.creator?).Nodup
  /-- A record that has been created has the profile of its announcement. -/
  created : ∀ j ticket node d, ∀ e ∈ h.trace, e.Creates j ticket node d →
    ∃ record, h.system.tracker.store.find d = some record ∧ record.profile = node.profile
  /-- A snapshot that is taken now is strictly in the order of the ids. -/
  ascending : h.registry.snapshot.1.Pairwise fun a b => a.values.durableId < b.values.durableId
  /-- The entry that a flush is about to append has a record, and will not
  be refused for want of one. -/
  attributed : ∀ j now entry rest report,
    h.job? j = some (.flushing (.appending now entry rest report)) →
      (∃ record, h.system.tracker.store.find entry.node = some record) ∧
        ∀ cause, h.system.tracker.store.append entry = .error cause → ¬ cause.LacksRecord
  /-- The tickets fit words of 64 bits, with fewer than `2 ^ 64` announcements. -/
  words : h.registry.WordsSuffice (h.trace.filterMap Event.issued?)

theorem length_creators (trace : List Event) :
    (trace.filterMap Event.creator?).length = (trace.filterMap Event.created?).length := by
  induction trace with
  | nil => rfl
  | cons e rest ih =>
    cases e with
    | installed j ticket node id previous => exact congrArg Nat.succ ih
    | superseded j ticket node id => exact congrArg Nat.succ ih
    | _ => exact ih

theorem sublist_installedIds (trace : List Event) :
    List.Sublist (trace.filterMap Event.installedId?) (trace.filterMap Event.created?) := by
  induction trace with
  | nil => exact List.Sublist.slnil
  | cons e rest ih =>
    cases e with
    | installed j ticket node id previous => exact ih.cons_cons id
    | superseded j ticket node id => exact ih.cons id
    | _ => exact ih

/-- At any point of any run the tracked nodes and the records of the store
belong together, and no later move takes a record away or changes what was
announced. -/
theorem identities_hold {store : Store} (fresh : store.Fresh) (policy : RetryPolicy)
    (moves : List Move) :
    (run store policy moves).Identified store ∧
      ∀ later d record, (run store policy moves).system.tracker.store.find d = some record →
        ∃ record', (run store policy (moves ++ later)).system.tracker.store.find d =
          some record' ∧ record'.profile = record.profile := by
  obtain ⟨told, after⟩ := run_tells store policy moves
  have find : ∀ {d profile}, (run store policy moves).system.tracker.store.profile? d =
      some profile → ∃ record,
        (run store policy moves).system.tracker.store.find d = some record ∧
          record.profile = profile := Store.find_of_profile?
  have distinct : ∀ f g s s', (run store policy moves).registry.get? f = some s →
      (run store policy moves).registry.get? g = some s' → s.durableId = s'.durableId →
        f = g := by
    intro f g s s' foundF foundG same
    rw [registry, after] at foundF foundG
    exact told.feedId_unique foundG foundF same
  refine ⟨?_, ?_⟩
  · refine
      { named := ?_
        distinct
        once := (counts_ids.nodup told).sublist (sublist_installedIds _)
        counted := ?_
        creators := ⟨length_creators _, ?_⟩
        created := ?_
        ascending := Registry.ascending_snapshot distinct
        attributed := ?_
        words := run_wordsSuffice store policy moves }
    · intro f s found
      rw [registry, after] at found
      obtain ⟨before, j, ticket, node, previous, life, place, feedId, alive, profile⟩ :=
        told.installed_of_tracked fresh found
      rw [← after] at profile
      obtain ⟨record, found, announced⟩ := find profile
      refine ⟨before, j, ticket, node, previous, life, record, place, feedId, ?_, alive, found,
        announced⟩
      rw [place] at told
      have current := Registry.isCurrent_iff.1 told.fits.1
      exact (tells_append.1 told).1.issued_of_ticket? current
    · rw [after]
      exact told.size_after fresh
    · refine nodup_of_logs Event.job?_of_creator? ?_
      intro j
      exact (run_log logs_creators store policy (fun _ _ => trivial) j).1
    · intro j ticket node d e member creates
      have profile := told.profile?_of_created fresh member creates.profile
      rw [← after] at profile
      exact find profile
    · intro j now entry rest report underway
      obtain ⟨profile, found⟩ := run_attributed fresh policy moves j _ underway entry.node
        List.mem_cons_self
      obtain ⟨record, found', -⟩ := find found
      refine ⟨⟨record, found'⟩, ?_⟩
      intro cause refused
      rw [Store.error_of_append found refused]
      exact StoreError.not_lacksRecord_numberTooLarge
  · intro later d record found
    have profile : (run store policy moves).system.tracker.store.profile? d =
        some record.profile := congrArg (Option.map Record.profile) found
    exact Store.find_of_profile? (profile?_run fresh profile later)

/-- A node is announced twice and another one once, the records are created
in the opposite order, and a flush is about to append the first entry. -/
def exampleCrossing : List Move :=
  [.message 0 (.addedNode (exampleNode 7 none)), .message 1 (.addedNode (exampleNode 7 none)),
    .message 2 (.addedNode (exampleNode 8 none)), .step 2 none, .step 1 none, .step 0 none,
    .call (.flush 1000), .step 3 none, .step 3 none]

theorem identities_hold_exampleCrossing :
    (Store.memory (.seeded 40)).Fresh ∧
      ((run (.memory (.seeded 40)) .default exampleCrossing).registry.snapshot.1.map
        (·.values.durableId) = [41, 42]) ∧
      (run (.memory (.seeded 40)) .default exampleCrossing).system.tracker.store.size = 3 ∧
      (run (.memory (.seeded 40)) .default exampleCrossing).Identified (.memory (.seeded 40)) ∧
      (Store.tables .empty).Fresh ∧
      ((run (.tables .empty) .default exampleCrossing).registry.snapshot.1.map
        (·.values.durableId) = [1, 2]) ∧
      (run (.tables .empty) .default exampleCrossing).Identified (.tables .empty) :=
  ⟨Store.fresh_seeded 40, rfl, rfl,
    (identities_hold (Store.fresh_seeded 40) .default exampleCrossing).1,
    Store.fresh_empty, rfl, (identities_hold Store.fresh_empty .default exampleCrossing).1⟩

end History

end NodeWatch
