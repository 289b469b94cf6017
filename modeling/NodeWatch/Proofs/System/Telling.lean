/-
NodeWatch.Proofs.System.Telling — the trace tells the whole tracker.

`Tracker.follow` carries out on a tracker what an event says, with the
operations of the registry and of the store and nothing else.  `Fits` says
that an event is true where it is told: what it reports is what the
operation answered there.

Main statement: in every run the tracker at the end is what its trace makes
of the tracker at the beginning, and every event fits where it stands
(`run_tells`).  Whatever is asked of a registry or of a store after a run
is therefore a question about lists of events.
-/
import NodeWatch.Proofs.Registry
import NodeWatch.Proofs.System.Basic

namespace NodeWatch

/-! ## 1. Stores after a call -/

namespace Store

/-- The store after a record has been created, or could not be. -/
def created (store : Store) (profile : Profile) : Store :=
  match store.create profile with
  | .ok (.ok (_, store)) => store
  | _ => store

/-- The store after a location has been set, or was refused. -/
def placed (store : Store) (id : DurableId) (location : Location) : Store :=
  match store.setLocation id location with
  | .ok store => store
  | .error _ => store

/-- The store after an entry has been appended, or was refused. -/
def appended (store : Store) (entry : HistoryEntry) : Store :=
  match store.append entry with
  | .ok store => store
  | .error _ => store

end Store

/-! ## 2. Following events -/

/-- The statistics of an announced node whose record has an id. -/
def Announcement.tracked (node : Announcement) (id : DurableId) : Tracked :=
  .ofAnnouncement id node.gauges node.block

/-- What an event does to the registry. -/
def Registry.follow (r : Registry) : Event → Registry
  | .issued ticket => (r.issue ticket.feedId).2
  | .announced _ ticket _ => (r.issue ticket.feedId).2
  | .imported f b _ => (r.recordBlock f b).2
  | .gauged f g _ => (r.setGauges f g).2
  | .removed f _ => (r.remove f).2
  | .installed _ ticket node id _ => (r.install ticket (node.tracked id)).2
  | .uncreated _ ticket (some _) => r.abandon ticket
  | .snapped _ _ _ => r.snapshot.2
  | _ => r

/-- What an event does to the store. -/
def Store.follow (store : Store) : Event → Store
  | .installed _ _ node _ _ => store.created node.profile
  | .superseded _ _ node _ => store.created node.profile
  | .placed _ id location true => store.placed id location
  | .appended _ entry true => store.appended entry
  | _ => store

/-- What an event does to a tracker. -/
def Tracker.follow (t : Tracker) (e : Event) : Tracker :=
  { t with registry := t.registry.follow e, store := t.store.follow e }

/-- Whether an event is true where it is told. -/
def Event.Fits (t : Tracker) : Event → Prop
  | .issued ticket => ticket = (t.registry.issue ticket.feedId).1
  | .announced _ ticket node => ticket = (t.registry.issue node.feedId).1
  | .imported f _ known => known = (t.registry.get? f).isSome
  | .gauged f _ known => known = (t.registry.get? f).isSome
  | .removed f previous => previous = t.registry.get? f
  | .installed _ ticket node id previous =>
    t.registry.isCurrent ticket = true ∧ previous = t.registry.get? ticket.feedId ∧
      t.store.create node.profile = .ok (.ok (id, t.store.created node.profile))
  | .superseded _ ticket node id =>
    t.registry.isCurrent ticket = false ∧
      t.store.create node.profile = .ok (.ok (id, t.store.created node.profile))
  | .looked _ f found => found = t.registry.durableId? f
  | .placed _ id location true =>
    t.store.setLocation id location = .ok (t.store.placed id location)
  | .snapped _ _ readings => readings = t.registry.snapshot.1
  | .appended _ entry true => t.store.append entry = .ok (t.store.appended entry)
  | _ => True

/-- Whether events, told from a tracker on, are true where they stand. -/
def Tells (t : Tracker) : List Event → Prop
  | [] => True
  | e :: rest => e.Fits t ∧ Tells (t.follow e) rest

/-- The tracker that events lead to. -/
def Tracker.after (t : Tracker) (trace : List Event) : Tracker :=
  trace.foldl Tracker.follow t

@[simp] theorem Tracker.after_nil (t : Tracker) : t.after [] = t := rfl

@[simp] theorem Tracker.after_cons (t : Tracker) (e : Event) (rest : List Event) :
    t.after (e :: rest) = (t.follow e).after rest := rfl

theorem Tracker.after_append (t : Tracker) (a b : List Event) :
    t.after (a ++ b) = (t.after a).after b :=
  List.foldl_append

theorem tells_append {t : Tracker} {a b : List Event} :
    Tells t (a ++ b) ↔ Tells t a ∧ Tells (t.after a) b := by
  induction a generalizing t with
  | nil => simp [Tells]
  | cons e rest ih => simp only [List.cons_append, Tells, ih, Tracker.after_cons, and_assoc]

theorem Tells.fits {t : Tracker} {before after : List Event} {e : Event}
    (h : Tells t (before ++ e :: after)) : e.Fits (t.after before) :=
  (tells_append.1 h).2.1

/-! ## 3. Steps of jobs -/

namespace Tracker

theorem create_ok {t t' : Tracker} {refusal : Refusal} {profile : Profile} {id : DurableId}
    (h : t.create refusal profile = .ok (.ok (id, t'))) :
    t.store.create profile = .ok (.ok (id, t.store.created profile)) ∧
      t' = { t with store := t.store.created profile } := by
  cases refusal with
  | some cause => simp [create] at h
  | none =>
    unfold Store.created
    simp only [create] at h
    cases answer : t.store.create profile with
    | error cause => simp [answer, Except.map] at h
    | ok result =>
      cases result with
      | error cause => simp [answer, Except.map] at h
      | ok made =>
        obtain ⟨id', store⟩ := made
        simp only [answer, Except.map, Except.ok.injEq, Prod.mk.injEq] at h
        obtain ⟨rfl, rfl⟩ := h
        exact ⟨rfl, rfl⟩

theorem setLocation_ok {t t' : Tracker} {refusal : Refusal} {id : DurableId} {l : Location}
    (h : t.setLocation refusal id l = .ok t') :
    t.store.setLocation id l = .ok (t.store.placed id l) ∧
      t' = { t with store := t.store.placed id l } := by
  cases refusal with
  | some cause => simp [setLocation] at h
  | none =>
    unfold Store.placed
    simp only [setLocation] at h
    cases answer : t.store.setLocation id l with
    | error cause => simp [answer, Except.map] at h
    | ok store =>
      simp only [answer, Except.map, Except.ok.injEq] at h
      exact ⟨rfl, h.symm⟩

theorem append_ok {t t' : Tracker} {refusal : Refusal} {entry : HistoryEntry}
    (h : t.append refusal entry = .ok t') :
    t.store.append entry = .ok (t.store.appended entry) ∧
      t' = { t with store := t.store.appended entry } := by
  cases refusal with
  | some cause => simp [append] at h
  | none =>
    unfold Store.appended
    simp only [append] at h
    cases answer : t.store.append entry with
    | error cause => simp [answer, Except.map] at h
    | ok store =>
      simp only [answer, Except.map, Except.ok.injEq] at h
      exact ⟨rfl, h.symm⟩

end Tracker

/-- A list of events is the whole story of a change of the tracker. -/
def Explains (t t' : Tracker) (events : List Event) : Prop :=
  Tells t events ∧ t' = t.after events

theorem explains_nil (t : Tracker) : Explains t t [] := ⟨trivial, rfl⟩

theorem explains_singleton {t t' : Tracker} {e : Event} (fits : e.Fits t)
    (follows : t' = t.follow e) : Explains t t' [e] :=
  ⟨⟨fits, trivial⟩, follows⟩

theorem Explains.append {t t' t'' : Tracker} {a b : List Event} (ha : Explains t t' a)
    (hb : Explains t' t'' b) : Explains t t'' (a ++ b) := by
  obtain ⟨tellsA, rfl⟩ := ha
  obtain ⟨tellsB, rfl⟩ := hb
  exact ⟨tells_append.2 ⟨tellsA, tellsB⟩, (t.after_append a b).symm⟩

theorem Announcing.explains (j : JobId) (t : Tracker) (refusal : Refusal) (a : Announcing) :
    Explains t (a.step t refusal).tracker (a.events j t refusal) := by
  cases a with
  | unbegun node => exact explains_singleton rfl rfl
  | creating ticket node =>
    simp only [step, events]
    cases answer : t.create refusal node.profile with
    | error cause => exact explains_singleton trivial rfl
    | ok result =>
      cases result with
      | error cause => exact explains_singleton trivial rfl
      | ok made =>
        obtain ⟨id, t'⟩ := made
        obtain ⟨created, rfl⟩ := Tracker.create_ok answer
        cases current : t.registry.isCurrent ticket with
        | true => exact explains_singleton ⟨current, rfl, created⟩ rfl
        | false =>
          refine explains_singleton ⟨current, created⟩ ?_
          simp [install, Registry.install_of_not_current current, Tracker.follow,
            Registry.follow, Store.follow]
  | placing node id location =>
    simp only [step, events]
    cases answer : t.setLocation refusal id location with
    | error cause => exact explains_singleton trivial rfl
    | ok t' =>
      obtain ⟨placed, rfl⟩ := Tracker.setLocation_ok answer
      exact explains_singleton placed rfl

theorem Locating.explains_attempt (j : JobId) (t : Tracker) (refusal : Refusal) (l : Locating) :
    Explains t (l.attempt t refusal).tracker (l.events j t refusal) := by
  cases l with
  | looking task =>
    simp only [attempt, events]
    cases found : t.registry.durableId? task.feedId with
    | none => exact explains_singleton found.symm rfl
    | some id => exact explains_singleton found.symm rfl
  | placing task id =>
    simp only [attempt, events]
    cases answer : t.setLocation refusal id task.location with
    | error cause => exact explains_singleton trivial rfl
    | ok t' =>
      obtain ⟨placed, rfl⟩ := Tracker.setLocation_ok answer
      exact explains_singleton placed rfl

theorem Flushing.explains (j : JobId) (t : Tracker) (refusal : Refusal) (f : Flushing) :
    Explains t (f.step t refusal).tracker (f.events j t refusal) := by
  cases f with
  | unbegun now => exact explains_singleton rfl rfl
  | finding now reading rest report =>
    simp only [step, events]
    split <;> exact explains_nil t
  | appending now entry rest report =>
    simp only [step, events]
    cases answer : t.append refusal entry with
    | error cause => exact explains_singleton trivial rfl
    | ok t' =>
      obtain ⟨appended, rfl⟩ := Tracker.append_ok answer
      exact explains_singleton appended rfl

/-- The steps of a row of attempts differ from a single attempt only in
how they go on. -/
theorem Locating.step_tracker (t : Tracker) (refusal : Refusal) (l : Locating) :
    (l.step t refusal).tracker = (l.attempt t refusal).tracker := by
  simp only [step]
  split
  · rfl
  · rfl
  · unfold postpone
    split <;> rfl
  · rfl

theorem Job.explains_ending (j : JobId) (t : Tracker) (progress : Progress Job Result) :
    Explains t t (ending j progress) := by
  cases progress with
  | running job => exact explains_nil t
  | ended result => exact explains_singleton trivial rfl

/-- The events of a step are the whole story of what it does to the
tracker. -/
theorem Job.explains (j : JobId) (t : Tracker) (refusal : Refusal) (job : Job) :
    Explains t (job.step t refusal).tracker (job.events j t refusal) := by
  have ending := explains_ending j (job.step t refusal).tracker (job.step t refusal).progress
  refine Explains.append ?_ ending
  cases job with
  | announcing told a => exact a.explains j t refusal
  | attempting l => exact l.explains_attempt j t refusal
  | locating l =>
    have h := l.explains_attempt j t refusal
    rw [← l.step_tracker t refusal] at h
    exact h
  | flushing f => exact f.explains j t refusal

/-! ## 4. Moves and runs -/

namespace System

@[simp] theorem begin_tracker (s : System) (job : Job) : (s.begin job).tracker = s.tracker := rfl

theorem foldl_begin_tracker (s : System) (jobs : List Job) :
    (jobs.foldl begin s).tracker = s.tracker := by
  induction jobs generalizing s with
  | nil => rfl
  | cons job rest ih => exact ih (s.begin job)

end System

theorem Call.explains (j : JobId) (t : Tracker) (c : Call) :
    Explains t { t with registry := c.registry t.registry } (c.events j t.registry) := by
  cases c with
  | issue f => exact explains_singleton rfl rfl
  | block f b => exact explains_singleton (t.registry.recordBlock_fst f b) rfl
  | gauges f g => exact explains_singleton (t.registry.setGauges_fst f g) rfl
  | remove f => exact explains_singleton rfl rfl
  | attempt f location => exact explains_singleton trivial rfl
  | locate f location => exact explains_singleton trivial rfl
  | complete ticket node => exact explains_nil t
  | announce node => exact explains_nil t
  | flush now => exact explains_nil t

namespace Reaction

@[simp] theorem pong_tracker (now : Nat) (r : Reaction) (label : String) :
    (r.pong now label).tracker = r.tracker := by
  unfold pong
  split <;> rfl

@[simp] theorem pong_jobs (now : Nat) (r : Reaction) (label : String) :
    (r.pong now label).jobs = r.jobs := by
  unfold pong
  split <;> rfl

theorem announce_tracker (r : Reaction) (node : Announcement) :
    (r.announce node).tracker =
      { r.tracker with registry := (r.tracker.registry.issue node.feedId).2 } := by
  rw [announce_eq]

theorem announce_jobs (r : Reaction) (node : Announcement) :
    (r.announce node).jobs = r.jobs ++
      [.announcing true (.creating (r.tracker.registry.issue node.feedId).1 node)] := by
  rw [announce_eq]

end Reaction

theorem Message.explains (j : JobId) (now : Nat) (t : Tracker) (session : Session) (m : Message) :
    Explains t (Reaction.dispatch now { tracker := t, session } m).tracker
      (m.events j t.registry) := by
  cases m with
  | addedNode node =>
    exact explains_singleton rfl (Reaction.announce_tracker { tracker := t, session } node)
  | removedNode f => exact (Call.remove f).explains j t
  | locatedNode f location => exact (Call.locate f location).explains j t
  | importedBlock f b => exact (Call.block f b).explains j t
  | nodeStats f g => exact (Call.gauges f g).explains j t
  | pong label =>
    rw [Reaction.dispatch, Reaction.pong_tracker]
    exact explains_nil t
  | feedVersion version => exact explains_nil t
  | staleNode f => exact explains_nil t
  | subscribedTo label => exact explains_nil t
  | ignored action => exact explains_nil t
  | unknown code => exact explains_nil t

theorem System.explains_act (s : System) (m : Move) :
    Explains s.tracker (s.act m).1.tracker (s.act m).2 := by
  cases m with
  | message now m =>
    simp only [act, foldl_begin_tracker]
    exact m.explains s.begun now s.tracker s.session
  | call c =>
    simp only [act, foldl_begin_tracker]
    exact c.explains s.begun s.tracker
  | step j refusal =>
    simp only [act]
    cases s.jobs.get? j with
    | none => exact explains_nil s.tracker
    | some job => exact job.explains j s.tracker refusal

namespace History

variable {store : Store} {policy : RetryPolicy} {moves : List Move}

/-- In every run the trace is the whole story of the tracker. -/
theorem run_tells (store : Store) (policy : RetryPolicy) (moves : List Move) :
    Explains (.ofStore store policy) (run store policy moves).system.tracker
      (run store policy moves).trace := by
  refine run_invariant (P := fun h => Explains (.ofStore store policy) h.system.tracker h.trace)
    (explains_nil _) ?_ moves
  intro h m told
  exact told.append (h.system.explains_act m)

end History

end NodeWatch
