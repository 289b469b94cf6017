/-
NodeWatch.Proofs.System.Apart — what a flush leaves to the others.

Nothing but the history of the store depends on what flushes append, and no
step of any job depends on the history.  So a system can be looked at
without its history and without one of its jobs (`System.without`): what a
move of anything else does there is decided there (`without_act`), and once
its snapshot has been taken the steps of a flush do not show there at all
(`without_flush`).
-/
import NodeWatch.Proofs.System.Log
import NodeWatch.Proofs.System.Lookup

namespace NodeWatch

/-! ## 1. Forgetting the history -/

theorem isOk_map {ε α β : Type} (f : α → β) (x : Except ε α) : (x.map f).isOk = x.isOk := by
  cases x <;> rfl

/-- Two calls that are answered alike both fail, for one cause, or both
succeed. -/
theorem fail_or_succeed {ε α β : Type} {x : Except ε α} {y : Except ε β}
    (h : x.map (fun _ => ()) = y.map fun _ => ()) :
    (∃ cause, x = .error cause ∧ y = .error cause) ∨ ∃ a b, x = .ok a ∧ y = .ok b := by
  cases x with
  | error cause =>
    cases y with
    | error cause' =>
      cases h
      exact Or.inl ⟨cause, rfl, rfl⟩
    | ok b => cases h
  | ok a =>
    cases y with
    | error cause => cases h
    | ok b => exact Or.inr ⟨a, b, rfl, rfl⟩

namespace Store

/-- The store without its history. -/
def forget : Store → Store
  | .memory s => .memory { s with history := #[] }
  | .tables s => .tables { s with history := #[] }

theorem forget_forget (store : Store) : store.forget.forget = store.forget := by
  cases store <;> rfl

theorem find_forget (store : Store) (d : DurableId) : store.forget.find d = store.find d := by
  cases store <;> rfl

theorem create_forget (store : Store) (profile : Profile) :
    store.forget.create profile =
      (store.create profile).map fun answer => answer.map fun (d, store) => (d, store.forget) := by
  cases store with
  | memory s =>
    simp only [forget, create, MemoryStore.create]
    cases Word.add s.latest 1 <;> rfl
  | tables s =>
    simp only [forget, create, TableStore.create]
    cases Word.add s.sequence 1 <;> rfl

theorem setLocation_forget (store : Store) (d : DurableId) (location : Location) :
    store.forget.setLocation d location = (store.setLocation d location).map forget := by
  cases store with
  | memory s =>
    simp only [forget, setLocation, MemoryStore.setLocation]
    cases s.records.get? d <;> rfl
  | tables s =>
    simp only [forget, setLocation, TableStore.setLocation]
    cases s.nodes.contains d with
    | false => rfl
    | true => cases Column.ofDouble location.lat <;> cases Column.ofDouble location.lng <;> rfl

/-- Whether an entry is taken is decided without the history. -/
theorem append_forget (store : Store) (entry : HistoryEntry) :
    (store.forget.append entry).map (fun _ => ()) = (store.append entry).map fun _ => () := by
  cases store with
  | memory s =>
    simp only [forget, append, MemoryStore.append]
    cases s.records.contains entry.node <;> rfl
  | tables s =>
    simp only [forget, append, TableStore.append]
    cases HistoryRow.ofEntry entry with
    | error cause => rfl
    | ok row =>
      simp only [bind, Except.bind]
      cases s.nodes.contains row.node <;> rfl

/-- An entry only goes to the history. -/
theorem forget_appended (store : Store) (entry : HistoryEntry) :
    (store.appended entry).forget = store.forget := by
  cases store with
  | memory s =>
    obtain ⟨history, after⟩ := appended_memory s entry
    rw [after]
    rfl
  | tables s =>
    obtain ⟨history, after⟩ := appended_tables s entry
    rw [after]
    rfl

end Store

namespace Tracker

/-- The tracker without the history of its store. -/
def forget (t : Tracker) : Tracker :=
  { t with store := t.store.forget }

variable (t : Tracker) (refusal : Refusal)

@[simp] theorem registry_forget : t.forget.registry = t.registry := rfl

theorem find_forget (d : DurableId) : t.forget.find refusal d = t.find refusal d := by
  cases refusal with
  | none => exact congrArg Except.ok (t.store.find_forget d)
  | some cause => rfl

theorem create_forget (profile : Profile) :
    t.forget.create refusal profile =
      (t.create refusal profile).map fun answer => answer.map fun (d, t) => (d, t.forget) := by
  cases refusal with
  | some cause => rfl
  | none =>
    simp only [create, forget, Store.create_forget]
    cases t.store.create profile with
    | error cause => rfl
    | ok answer => cases answer <;> rfl

theorem setLocation_forget (d : DurableId) (location : Location) :
    t.forget.setLocation refusal d location = (t.setLocation refusal d location).map forget := by
  cases refusal with
  | some cause => rfl
  | none =>
    simp only [setLocation, forget, Store.setLocation_forget]
    cases t.store.setLocation d location <;> rfl

theorem append_forget (entry : HistoryEntry) :
    (t.forget.append refusal entry).map (fun _ => ()) =
      (t.append refusal entry).map fun _ => () := by
  cases refusal with
  | some cause => rfl
  | none =>
    simp only [append, forget]
    rcases fail_or_succeed (t.store.append_forget entry) with ⟨cause, first, second⟩ |
      ⟨store, store', first, second⟩ <;>
    simp [first, second, Except.map]

theorem forget_append {t t' : Tracker} {refusal : Refusal} {entry : HistoryEntry}
    (h : t.append refusal entry = .ok t') : t'.forget = t.forget := by
  obtain ⟨-, rfl⟩ := append_ok h
  simp only [forget, Store.forget_appended]

theorem forget_forget : t.forget.forget = t.forget := by
  simp only [forget, Store.forget_forget]

end Tracker

/-! ## 2. Steps of jobs -/

/-- A step seen without the history. -/
def Step.forget {σ ρ : Type} (s : Step σ ρ) : Step σ ρ :=
  { s with tracker := s.tracker.forget }

section

variable (j : JobId) (t : Tracker) (refusal : Refusal)

theorem Announcing.step_forget (a : Announcing) :
    a.step t.forget refusal = (a.step t refusal).forget := by
  cases a with
  | unbegun node => rfl
  | creating ticket node =>
    simp only [step, Tracker.create_forget]
    cases t.create refusal node.profile with
    | error cause => rfl
    | ok answer => cases answer <;> rfl
  | placing node d location =>
    simp only [step, Tracker.setLocation_forget]
    cases t.setLocation refusal d location <;> rfl

theorem Announcing.events_forget (a : Announcing) :
    a.events j t.forget refusal = a.events j t refusal := by
  cases a with
  | unbegun node => rfl
  | creating ticket node =>
    simp only [events, Tracker.create_forget]
    cases t.create refusal node.profile with
    | error cause => rfl
    | ok answer => cases answer <;> rfl
  | placing node d location => simp only [events, Tracker.setLocation_forget, isOk_map]

theorem Locating.attempt_forget (l : Locating) :
    l.attempt t.forget refusal = (l.attempt t refusal).forget := by
  cases l with
  | looking task =>
    simp only [attempt, Tracker.registry_forget]
    cases t.registry.durableId? task.feedId <;> rfl
  | placing task d =>
    simp only [attempt, Tracker.setLocation_forget]
    cases t.setLocation refusal d task.location <;> rfl

theorem Locating.step_forget (l : Locating) :
    l.step t.forget refusal = (l.step t refusal).forget := by
  simp only [step, attempt_forget, Step.forget]
  split
  · rfl
  · rfl
  · unfold postpone
    split <;> rfl
  · rfl

theorem Locating.events_forget (l : Locating) :
    l.events j t.forget refusal = l.events j t refusal := by
  cases l with
  | looking task => rfl
  | placing task d => simp only [events, Tracker.setLocation_forget, isOk_map]

theorem Flushing.step_forget (f : Flushing) :
    (f.step t.forget refusal).forget = (f.step t refusal).forget := by
  cases f with
  | unbegun now => simp only [step, Step.forget, Tracker.forget, Store.forget_forget]
  | finding now reading rest report =>
    simp only [step, Tracker.find_forget]
    split <;> simp only [Step.forget, Tracker.forget_forget]
  | appending now entry rest report =>
    simp only [step]
    rcases fail_or_succeed (t.append_forget refusal entry) with ⟨cause, first, second⟩ |
      ⟨t'', t', first, second⟩
    · simp only [first, second, Step.forget, Tracker.forget_forget]
    · have here := Tracker.forget_append first
      have there := Tracker.forget_append second
      simp only [first, second, Step.forget, here, there, Tracker.forget_forget]

theorem Flushing.events_forget (f : Flushing) :
    f.events j t.forget refusal = f.events j t refusal := by
  cases f with
  | unbegun now => rfl
  | finding now reading rest report => rfl
  | appending now entry rest report =>
    have answer := congrArg Except.isOk (t.append_forget refusal entry)
    rw [isOk_map, isOk_map] at answer
    rw [events, events, answer]

/-- Once its snapshot has been taken, a step of a flush changes nothing but
the history. -/
theorem Flushing.tracker_forget {f : Flushing} (taken : ∀ now, f ≠ .unbegun now) :
    (f.step t refusal).tracker.forget = t.forget := by
  cases f with
  | unbegun now => exact absurd rfl (taken now)
  | finding now reading rest report =>
    simp only [step]
    split <;> rfl
  | appending now entry rest report =>
    simp only [step]
    cases answer : t.append refusal entry with
    | error cause => rfl
    | ok t' => exact Tracker.forget_append answer

theorem Job.step_forget (job : Job) :
    (job.step t.forget refusal).forget = (job.step t refusal).forget := by
  cases job with
  | announcing told a =>
    simp only [step, a.step_forget]
    simp only [Step.forget, Step.map, Tracker.forget_forget]
  | attempting l =>
    simp only [step, l.attempt_forget]
    simp only [Step.forget, Step.map, Tracker.forget_forget]
  | locating l =>
    simp only [step, l.step_forget]
    simp only [Step.forget, Step.map, Tracker.forget_forget]
  | flushing f =>
    exact congrArg (Step.map Job.flushing (Result.ofExcept .flushed)) (f.step_forget t refusal)

theorem Job.events_forget (job : Job) :
    job.events j t.forget refusal = job.events j t refusal := by
  have progress := congrArg Step.progress (job.step_forget t refusal)
  have told : job.story j t.forget refusal = job.story j t refusal := by
    cases job with
    | announcing _ a => exact a.events_forget j t refusal
    | attempting l => exact l.events_forget j t refusal
    | locating l => exact l.events_forget j t refusal
    | flushing f => exact f.events_forget j t refusal
  simp only [Step.forget] at progress
  rw [events, events, told, progress]

theorem Reaction.dispatch_forget (now : Nat) (session : Session) (m : Message) :
    dispatch now { tracker := t.forget, session } m =
      { dispatch now { tracker := t, session } m with
        tracker := (dispatch now { tracker := t, session } m).tracker.forget } := by
  cases m with
  | addedNode node =>
    rw [dispatch, dispatch, announce_eq, announce_eq]
    rfl
  | pong label =>
    simp only [dispatch, pong]
    cases session.keepAlive.pong label now <;> rfl
  | _ => rfl

end

/-! ## 3. Systems -/

namespace System

/-- A system seen without the history of its store and without a job. -/
def without (j : JobId) (s : System) : System :=
  { s with tracker := s.tracker.forget, jobs := s.jobs.erase j }

section

variable {j : JobId} {s s' : System}

theorem without_eq_iff : s.without j = s'.without j ↔
    s.tracker.forget = s'.tracker.forget ∧ s.session = s'.session ∧
      s.jobs.erase j = s'.jobs.erase j ∧ s.begun = s'.begun := by
  simp [without]

theorem registry_of_without (same : s.without j = s'.without j) :
    s.tracker.registry = s'.tracker.registry := by
  have registries : s.tracker.forget.registry = s'.tracker.forget.registry := by
    rw [(without_eq_iff.1 same).1]
  exact registries

theorem policy_of_without (same : s.without j = s'.without j) :
    s.tracker.policy = s'.tracker.policy := by
  have policies : s.tracker.forget.policy = s'.tracker.forget.policy := by
    rw [(without_eq_iff.1 same).1]
  exact policies

theorem store_of_without (same : s.without j = s'.without j) :
    s.tracker.store.forget = s'.tracker.store.forget := by
  have stores : s.tracker.forget.store = s'.tracker.forget.store := by
    rw [(without_eq_iff.1 same).1]
  exact stores

theorem get?_of_without (same : s.without j = s'.without j) {k : JobId} (other : j ≠ k) :
    s.jobs.get? k = s'.jobs.get? k := by
  have jobs := congrArg (fun s => s.jobs.get? k) same
  simp only [without, Table.get?_erase_of_ne _ other] at jobs
  exact jobs

theorem erase_proceed (jobs : Table JobId Job) {j k : JobId} (other : j ≠ k) (left : Option Job) :
    (proceed jobs k left).erase j = proceed (jobs.erase j) k left := by
  cases left with
  | none => exact jobs.erase_comm k j
  | some job => exact (jobs.erase_insert k j job).trans (if_neg other.symm)

theorem erase_proceed_self (jobs : Table JobId Job) (j : JobId) (left : Option Job) :
    (proceed jobs j left).erase j = jobs.erase j := by
  cases left with
  | none => exact jobs.erase_erase j
  | some job => exact (jobs.erase_insert j j job).trans (if_pos rfl)

theorem without_begin (same : s.without j = s'.without j) (job : Job) :
    (s.begin job).without j = (s'.begin job).without j := by
  obtain ⟨tracker, session, jobs, begun⟩ := without_eq_iff.1 same
  refine without_eq_iff.2 ⟨tracker, session, ?_, ?_⟩
  · simp only [begin, Table.erase_insert, jobs, begun]
  · simp only [begin, begun]

theorem without_foldl_begin (same : s.without j = s'.without j) (jobs : List Job) :
    (jobs.foldl begin s).without j = (jobs.foldl begin s').without j := by
  induction jobs generalizing s s' with
  | nil => exact same
  | cons job rest ih => exact ih (without_begin same job)

/-- Of two systems that only differ in a job and in the history, whatever is
no step of that job makes two that do, and tells the same. -/
theorem without_act (same : s.without j = s'.without j) {m : Move}
    (other : ∀ refusal, m ≠ .step j refusal) :
    (s.act m).1.without j = (s'.act m).1.without j ∧ (s.act m).2 = (s'.act m).2 := by
  have registry := registry_of_without same
  obtain ⟨tracker, session, jobs, begun⟩ := without_eq_iff.1 same
  cases m with
  | message now m =>
    have dispatched := Reaction.dispatch_forget s.tracker now s.session m
    rw [tracker, session, Reaction.dispatch_forget] at dispatched
    have trackers := congrArg Reaction.tracker dispatched
    have sessions := congrArg Reaction.session dispatched
    have begins := congrArg Reaction.jobs dispatched
    simp only at trackers sessions begins
    simp only [act, registry, begun, session, begins, and_true]
    refine without_foldl_begin ?_ _
    exact without_eq_iff.2 ⟨trackers.symm, sessions.symm, jobs, rfl⟩
  | call c =>
    simp only [act, registry, begun, policy_of_without same, and_true]
    refine without_foldl_begin ?_ _
    refine without_eq_iff.2 ⟨?_, session, jobs, rfl⟩
    simp only [Tracker.forget, store_of_without same]
  | step k refusal =>
    have apart : j ≠ k := by
      rintro rfl
      exact other refusal rfl
    have found := get?_of_without same apart
    simp only [act, found]
    cases s'.jobs.get? k with
    | none => exact ⟨same, rfl⟩
    | some job =>
      have steps := job.step_forget s.tracker refusal
      have events := job.events_forget k s.tracker refusal
      rw [tracker, job.step_forget] at steps
      rw [tracker, job.events_forget] at events
      have trackers := congrArg Step.tracker steps
      have progress := congrArg Step.progress steps
      simp only [Step.forget] at trackers progress
      refine ⟨without_eq_iff.2 ⟨trackers.symm, session, ?_, begun⟩, events.symm⟩
      simp only [erase_proceed _ apart, jobs, progress]

/-- The steps of a flush that has taken its snapshot do not show without it. -/
theorem without_flush {f : Flushing} (found : s.jobs.get? j = some (.flushing f))
    (taken : ∀ now, f ≠ .unbegun now) (refusal : Refusal) :
    (s.act (.step j refusal)).1.without j = s.without j := by
  simp only [act, found]
  exact without_eq_iff.2 ⟨f.tracker_forget s.tracker refusal taken, rfl,
    erase_proceed_self s.jobs j _, rfl⟩

end

end System

end NodeWatch
