/-
NodeWatch.Proofs.System.Attribution — whose record an entry goes to.

A flush reads a record and appends an entry for each of its readings, long
after its snapshot has been taken.  The records are there all the same: a
tracked node has a record, with the profile that it was announced with
(`installed_of_tracked`), a snapshot reads tracked nodes only, and no record
is ever lost.  So at any point of a run every record that a flush will still
ask for exists (`run_attributed`), and a store that refuses an entry does so
for the numbers in it (`error_of_append`).
-/
import NodeWatch.Proofs.Appending
import NodeWatch.Proofs.System.Origin
import NodeWatch.Proofs.System.Records

namespace NodeWatch

/-! ## 1. Appending where there is a record -/

namespace Column

theorem error_of_unsigned {n : UInt64} {cause : StoreError}
    (h : ofUnsigned n = .error cause) : cause = .numberTooLarge := by
  unfold ofUnsigned at h
  split at h <;> cases h
  rfl

theorem error_of_optional {n : Option UInt64} {cause : StoreError}
    (h : n.mapM ofUnsigned = .error cause) : cause = .numberTooLarge := by
  cases n with
  | none => cases h
  | some n =>
    rw [Option.mapM_some] at h
    cases made : ofUnsigned n with
    | ok column => simp [made, Functor.map, Except.map] at h
    | error cause' =>
      rw [made] at h
      cases h
      exact error_of_unsigned made

end Column

namespace HistoryRow

theorem node_of_ofEntry {entry : HistoryEntry} {row : HistoryRow} (h : ofEntry entry = .ok row) :
    row.node = entry.node := by
  simp only [ofEntry, bind_eq_ok] at h
  obtain ⟨_, -, _, -, _, -, _, -, made⟩ := h
  cases made
  rfl

/-- A row can only be refused for a number. -/
theorem error_of_ofEntry {entry : HistoryEntry} {cause : StoreError}
    (h : ofEntry entry = .error cause) : cause = .numberTooLarge := by
  simp only [ofEntry, bind_eq_error] at h
  rcases h with h | ⟨_, -, h | ⟨_, -, h | ⟨_, -, h | ⟨_, -, h⟩⟩⟩⟩
  · exact Column.error_of_optional h
  · exact Column.error_of_optional h
  · exact Column.error_of_unsigned h
  · exact Column.error_of_unsigned h
  · cases h

end HistoryRow

namespace Store

/-- What a store answers to an entry whose node has a record: tables refuse
a number that is too large for its column. -/
def accepts (store : Store) (entry : HistoryEntry) : Except StoreError Unit :=
  match store with
  | .memory _ => .ok ()
  | .tables _ => (HistoryRow.ofEntry entry).map fun _ => ()

theorem append_of_profile? {store : Store} {entry : HistoryEntry} {profile : Profile}
    (found : store.profile? entry.node = some profile) :
    (store.append entry).map (fun _ => ()) = store.accepts entry := by
  cases store with
  | memory s =>
    rw [profile?_memory, Option.map_eq_some_iff] at found
    obtain ⟨record, found, -⟩ := found
    simp [append, MemoryStore.append, Table.contains, found, accepts, Except.map]
  | tables s =>
    rw [profile?_tables] at found
    simp only [append, TableStore.append, accepts]
    cases made : HistoryRow.ofEntry entry with
    | error cause => rfl
    | ok row =>
      have node := HistoryRow.node_of_ofEntry made
      simp [bind, Except.bind, Table.contains, node, found, Except.map, pure, Except.pure]

/-- Where the node of an entry has a record, only a number can be wrong. -/
theorem error_of_append {store : Store} {entry : HistoryEntry} {profile : Profile}
    (found : store.profile? entry.node = some profile) {cause : StoreError}
    (refused : store.append entry = .error cause) : cause = .numberTooLarge := by
  have answer := append_of_profile? found
  rw [refused] at answer
  cases store with
  | memory s => cases answer
  | tables s =>
    simp only [accepts] at answer
    cases made : HistoryRow.ofEntry entry with
    | ok row => simp [made, Except.map] at answer
    | error cause' =>
      simp only [made, Except.map, Except.error.injEq] at answer
      rw [answer]
      exact HistoryRow.error_of_ofEntry made

end Store

/-! ## 2. Tracked nodes -/

namespace Tells

variable {store : Store} {policy : RetryPolicy} {trace : List Event}

/-- A tracked node has a record, with the profile of the announcement that
its installation was for. -/
theorem installed_of_tracked (told : Tells (.ofStore store policy) trace) (fresh : store.Fresh)
    {f : FeedId} {s : Tracked}
    (h : ((Tracker.ofStore store policy).after trace).registry.get? f = some s) :
    ∃ before j ticket node previous life,
      trace = before ++ .installed j ticket node s.durableId previous :: life ∧
        ticket.feedId = f ∧ (∀ e ∈ life, e.ends f = false) ∧
        ((Tracker.ofStore store policy).after trace).store.profile? s.durableId =
          some node.profile := by
  obtain ⟨before, j, ticket, node, previous, life, rfl, feedId, alive⟩ := told.exists_installed h
  refine ⟨before, j, ticket, node, previous, life, rfl, feedId, alive, ?_⟩
  refine told.profile?_of_created fresh (List.mem_append_right before List.mem_cons_self) ?_
  intro other
  exact if_pos rfl

end Tells

/-! ## 3. The records that a flush asks for -/

namespace Flushing

/-- The ids of the records that a flush has still to read or to write. -/
def ids : Flushing → List DurableId
  | .unbegun _ => []
  | .finding _ reading rest _ => reading.values.durableId :: rest.map (·.values.durableId)
  | .appending _ entry rest _ => entry.node :: rest.map (·.values.durableId)

theorem ids_next {now : Int64} {report : Report} {readings : List Reading} {f : Flushing}
    (h : next now report readings = .running f) : f.ids = readings.map (·.values.durableId) := by
  cases readings with
  | nil => cases h
  | cons reading rest =>
    cases h
    rfl

/-- A step asks for no record that was not asked for before, but that a
snapshot asks for those of tracked nodes. -/
theorem ids_step {t : Tracker} {refusal : Refusal} {f left : Flushing}
    (h : (f.step t refusal).progress = .running left) {d : DurableId} (asked : d ∈ left.ids) :
    d ∈ f.ids ∨ (∃ now, f = .unbegun now) ∧
      ∃ g s, t.registry.get? g = some s ∧ s.durableId = d := by
  cases f with
  | unbegun now =>
    rw [ids_next h] at asked
    obtain ⟨⟨g, s⟩, member, rfl⟩ := List.mem_map.1 asked
    exact Or.inr ⟨⟨now, rfl⟩, g, s, Registry.mem_snapshot_iff.1 member, rfl⟩
  | finding now reading rest report =>
    simp only [step] at h
    split at h
    · cases h
    · next entry made =>
      cases h
      have node := Entered.node ⟨_, made⟩
      rw [ids, node] at asked
      exact Or.inl asked
  | appending now entry rest report =>
    obtain ⟨report', goesOn, -⟩ := appending_progress t refusal now entry rest report
    rw [goesOn] at h
    rw [ids_next h] at asked
    exact Or.inl (List.mem_cons_of_mem _ asked)

end Flushing

/-- The ids of the records that a job has still to ask for, if it is a
flush. -/
def Job.ids : Job → List DurableId
  | .flushing f => f.ids
  | _ => []

theorem Job.ids_step {t : Tracker} {refusal : Refusal} {job left : Job}
    (h : Job.rest (job.step t refusal).progress = some left) {d : DurableId}
    (asked : d ∈ left.ids) :
    d ∈ job.ids ∨ (∃ now, job = .flushing (.unbegun now)) ∧
      ∃ g s, t.registry.get? g = some s ∧ s.durableId = d := by
  cases left with
  | flushing f' =>
    cases job with
    | flushing f =>
      simp only [step, Step.map] at h
      cases goesOn : (f.step t refusal).progress with
      | running f'' =>
        simp only [goesOn, rest, Option.some.injEq, flushing.injEq] at h
        subst h
        rcases Flushing.ids_step goesOn asked with old | ⟨⟨now, rfl⟩, tracks⟩
        · exact Or.inl old
        · exact Or.inr ⟨⟨now, rfl⟩, tracks⟩
      | ended result => simp [goesOn, rest] at h
    | _ => cases Job.work_rest h
  | _ => cases asked

/-- A flush that is begun asks for nothing yet. -/
theorem Move.ids_of_job? {m : Move} {t : Tracker} {job : Job} (h : m.job? t = some job) :
    job.ids = [] := by
  cases m with
  | message now m => cases m <;> cases h <;> rfl
  | call c => cases c <;> cases h <;> rfl
  | step j refusal => cases h

namespace History

/-- Every record that a job has still to ask for is there. -/
def Attributed (h : History) : Prop :=
  ∀ j job, h.job? j = some job → ∀ d ∈ job.ids,
    ∃ profile, h.system.tracker.store.profile? d = some profile

variable {store : Store} {policy : RetryPolicy}

theorem run_fresh (fresh : store.Fresh) (policy : RetryPolicy) (moves : List Move) :
    (run store policy moves).system.tracker.store.Fresh := by
  obtain ⟨told, after⟩ := run_tells store policy moves
  rw [after]
  exact told.fresh_after fresh

/-- A move leaves every profile where it is. -/
theorem profile?_extend {h : History} (fresh : h.system.tracker.store.Fresh) (m : Move)
    {d : DurableId} {profile : Profile}
    (found : h.system.tracker.store.profile? d = some profile) :
    (h.extend m).system.tracker.store.profile? d = some profile := by
  obtain ⟨told, after⟩ := h.system.explains_act m
  rw [extend, after]
  exact told.profile?_keep fresh found

/-- No later move loses a record or changes its profile. -/
theorem profile?_run (fresh : store.Fresh) {moves : List Move} {d : DurableId}
    {profile : Profile}
    (found : (run store policy moves).system.tracker.store.profile? d = some profile)
    (later : List Move) :
    (run store policy (moves ++ later)).system.tracker.store.profile? d = some profile := by
  induction later using List.reverseRecOn with
  | nil => rwa [List.append_nil]
  | append_singleton later m ih =>
    rw [← List.append_assoc, run, List.foldl_append]
    exact profile?_extend (run_fresh fresh policy (moves ++ later)) m ih

theorem Attributed.extend {h : History} (attributed : h.Attributed)
    (fresh : h.system.tracker.store.Fresh)
    (tracked : ∀ f s, h.registry.get? f = some s →
      ∃ profile, h.system.tracker.store.profile? s.durableId = some profile) (m : Move) :
    (h.extend m).Attributed := by
  intro j job underway d asked
  have before : ∃ profile, h.system.tracker.store.profile? d = some profile := by
    rw [job?, History.extend] at underway
    rcases h.system.act_jobs m with ⟨_, jobs, _⟩ | ⟨new, begins, jobs, _⟩ |
      ⟨k, refusal, old, _, found, jobs, _⟩
    · rw [jobs] at underway
      exact attributed j job underway d asked
    · rw [jobs, Table.get?_insert] at underway
      split at underway
      · cases underway
        rw [Move.ids_of_job? begins] at asked
        cases asked
      · exact attributed j job underway d asked
    · rw [jobs, System.get?_proceed] at underway
      split at underway
      · rcases Job.ids_step underway asked with old | ⟨-, g, s, tracks, rfl⟩
        · exact attributed k _ found d old
        · exact tracked g s tracks
      · exact attributed j job underway d asked
  obtain ⟨profile, found⟩ := before
  exact ⟨profile, profile?_extend fresh m found⟩

/-- At any point of a run every record that a flush will still ask for
exists. -/
theorem run_attributed (fresh : store.Fresh) (policy : RetryPolicy) (moves : List Move) :
    (run store policy moves).Attributed := by
  induction moves using List.reverseRecOn with
  | nil =>
    intro j job underway
    cases underway
  | append_singleton moves m ih =>
    obtain ⟨told, after⟩ := run_tells store policy moves
    have tracked : ∀ f s, (run store policy moves).registry.get? f = some s → ∃ profile,
        (run store policy moves).system.tracker.store.profile? s.durableId = some profile := by
      intro f s found
      rw [registry, after] at found
      obtain ⟨_, _, _, node, _, _, _, _, _, profile⟩ := told.installed_of_tracked fresh found
      rw [after]
      exact ⟨node.profile, profile⟩
    rw [run, List.foldl_append]
    exact ih.extend (run_fresh fresh policy moves) tracked m

end History

end NodeWatch
