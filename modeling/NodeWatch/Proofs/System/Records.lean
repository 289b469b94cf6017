/-
NodeWatch.Proofs.System.Records — the records of a store.

A store is read in three ways: the profile under which a record was
created, the number of records, and the id that the next record goes on
after.  For the first two there is one statement of what an event makes of
them; the third has one already.

A store is fresh if no record has an id above its counter.  Every store that
the program begins with is fresh, and every event leaves it so (`Fresh.follow`).
In a fresh store a record that is created has a new id.  So a record is never
lost or changed into another one (`profile?_keep`), it has the profile of the
announcement that it was created for (`profile?_of_created`), and there are as
many records as were created (`size_after`).  A store also stays of its kind.
-/
import NodeWatch.Proofs.System.Lookup

namespace NodeWatch

/-! ## 1. Stores -/

namespace Store

/-- The profile under which the record with an id was created. -/
def profile? (store : Store) (d : DurableId) : Option Profile :=
  (store.find d).map Record.profile

/-- The number of records. -/
def size : Store → Nat
  | .memory s => s.records.size
  | .tables s => s.nodes.size

/-- Whether no record has an id above the counter. -/
def Fresh (store : Store) : Prop :=
  ∀ d profile, store.profile? d = some profile → d.toInt ≤ store.counter.toInt

theorem find_of_profile? {store : Store} {d : DurableId} {profile : Profile}
    (h : store.profile? d = some profile) :
    ∃ record, store.find d = some record ∧ record.profile = profile :=
  Option.map_eq_some_iff.1 h

theorem profile?_tables (s : TableStore) (d : DurableId) :
    (tables s).profile? d = s.nodes.get? d := by
  simp [profile?, find, TableStore.find, Function.comp_def]

theorem profile?_memory (s : MemoryStore) (d : DurableId) :
    (memory s).profile? d = (s.records.get? d).map Record.profile := rfl

theorem fresh_withLimit (limit : Nat) : (memory (.withLimit limit)).Fresh := by
  intro d profile h
  cases h

theorem fresh_seeded (latest : DurableId) : (memory (.seeded latest)).Fresh := by
  intro d profile h
  cases h

theorem fresh_empty : (tables .empty).Fresh := by
  intro d profile h
  cases h

section

variable {store : Store} {profile : Profile} {d : DurableId}

/-! ### Records that are created -/

theorem profile?_created (made : store.create profile = .ok (.ok (d, store.created profile)))
    (d' : DurableId) :
    (store.created profile).profile? d' = if d = d' then some profile else store.profile? d' := by
  cases store with
  | memory s =>
    obtain ⟨-, after⟩ := create_memory made
    rw [after, profile?_memory, profile?_memory, Table.get?_insert]
    split <;> rfl
  | tables s =>
    obtain ⟨-, after⟩ := create_tables made
    rw [after, profile?_tables, profile?_tables, Table.get?_insert]

theorem Fresh.profile?_new (fresh : store.Fresh)
    (made : store.create profile = .ok (.ok (d, store.created profile))) :
    store.profile? d = none := by
  cases found : store.profile? d with
  | none => rfl
  | some other =>
    have below := fresh d other found
    have next := (counter_create made).1
    omega

theorem Fresh.created (fresh : store.Fresh)
    (made : store.create profile = .ok (.ok (d, store.created profile))) :
    (store.created profile).Fresh := by
  obtain ⟨next, counter⟩ := counter_create made
  intro d' other found
  rw [profile?_created made] at found
  rw [counter]
  split at found
  · next same =>
    subst same
    exact Int.le_refl _
  · have below := fresh d' other found
    omega

theorem Fresh.size_created (fresh : store.Fresh)
    (made : store.create profile = .ok (.ok (d, store.created profile))) :
    (store.created profile).size = store.size + 1 := by
  have absent := fresh.profile?_new made
  cases store with
  | memory s =>
    obtain ⟨-, after⟩ := create_memory made
    rw [profile?_memory, Option.map_eq_none_iff] at absent
    rw [after]
    simp [size, Table.size_insert, Table.contains, absent]
  | tables s =>
    obtain ⟨-, after⟩ := create_tables made
    rw [profile?_tables] at absent
    rw [after]
    simp [size, Table.size_insert, Table.contains, absent]

/-! ### Other calls -/

/-- Setting a location leaves the profiles and their number. -/
theorem placed_records (store : Store) (d : DurableId) (location : Location) :
    (store.placed d location).size = store.size ∧
      ∀ d', (store.placed d location).profile? d' = store.profile? d' := by
  unfold placed
  cases store with
  | memory s =>
    simp only [setLocation, MemoryStore.setLocation]
    cases found : s.records.get? d with
    | none => exact ⟨rfl, fun _ => rfl⟩
    | some record =>
      simp only [Except.map]
      constructor
      · simp [size, Table.size_insert, Table.contains, found]
      · intro d'
        rw [profile?_memory, profile?_memory, Table.get?_insert]
        by_cases same : d = d'
        · subst same
          simp [found]
        · simp [same]
  | tables s =>
    simp only [setLocation, TableStore.setLocation]
    cases s.nodes.contains d with
    | false => exact ⟨rfl, fun _ => rfl⟩
    | true =>
      cases Column.ofDouble location.lat <;> cases Column.ofDouble location.lng <;>
        exact ⟨rfl, fun d' => by simp [Except.map, profile?_tables]⟩

/-- Appending leaves the profiles and their number. -/
theorem appended_records (store : Store) (entry : HistoryEntry) :
    (store.appended entry).size = store.size ∧
      ∀ d, (store.appended entry).profile? d = store.profile? d := by
  cases store with
  | memory s =>
    obtain ⟨history, after⟩ := appended_memory s entry
    rw [after]
    exact ⟨rfl, fun _ => rfl⟩
  | tables s =>
    obtain ⟨history, after⟩ := appended_tables s entry
    rw [after]
    exact ⟨rfl, fun _ => rfl⟩

theorem kind_created (store : Store) (profile : Profile) :
    (store.created profile).kind = store.kind := by
  unfold created
  cases store with
  | memory s =>
    simp only [create]
    cases s.create profile <;> rfl
  | tables s =>
    simp only [create]
    cases s.create profile <;> rfl

theorem kind_placed (store : Store) (d : DurableId) (location : Location) :
    (store.placed d location).kind = store.kind := by
  unfold placed
  cases store with
  | memory s =>
    simp only [setLocation]
    cases s.setLocation d location <;> rfl
  | tables s =>
    simp only [setLocation]
    cases s.setLocation d location <;> rfl

theorem kind_appended (store : Store) (entry : HistoryEntry) :
    (store.appended entry).kind = store.kind := by
  unfold appended
  cases store with
  | memory s =>
    simp only [append]
    cases s.append entry <;> rfl
  | tables s =>
    simp only [append]
    cases s.append entry <;> rfl

end

end Store

/-! ## 2. Events -/

/-- What an event makes of the profile under an id. -/
def Event.profile (d : DurableId) (before : Option Profile) : Event → Option Profile
  | .installed _ _ node id _ => if id = d then some node.profile else before
  | .superseded _ _ node id => if id = d then some node.profile else before
  | _ => before

theorem Event.profile_of_ne {e : Event} {d : DurableId} (h : e.created? ≠ some d)
    (before : Option Profile) : e.profile d before = before := by
  cases e with
  | installed j ticket node id previous =>
    exact if_neg fun same => h (congrArg some same)
  | superseded j ticket node id =>
    exact if_neg fun same => h (congrArg some same)
  | _ => rfl

namespace Tracker

variable {t : Tracker} {e : Event}

theorem profile?_follow (fits : e.Fits t) (d : DurableId) :
    (t.follow e).store.profile? d = e.profile d (t.store.profile? d) := by
  cases e with
  | installed j ticket node id previous => exact Store.profile?_created fits.2.2 d
  | superseded j ticket node id => exact Store.profile?_created fits.2 d
  | placed j id location done =>
    cases done with
    | false => rfl
    | true => exact (t.store.placed_records id location).2 d
  | appended j entry done =>
    cases done with
    | false => rfl
    | true => exact (t.store.appended_records entry).2 d
  | _ => rfl

/-- A store stays of its kind. -/
theorem kind_follow (t : Tracker) (e : Event) : (t.follow e).store.kind = t.store.kind := by
  cases e with
  | installed j ticket node id previous => exact t.store.kind_created node.profile
  | superseded j ticket node id => exact t.store.kind_created node.profile
  | placed j id location done =>
    cases done with
    | false => rfl
    | true => exact t.store.kind_placed id location
  | appended j entry done =>
    cases done with
    | false => rfl
    | true => exact t.store.kind_appended entry
  | _ => rfl

theorem kind_after (t : Tracker) (trace : List Event) :
    (t.after trace).store.kind = t.store.kind := by
  induction trace generalizing t with
  | nil => rfl
  | cons e rest ih => exact (ih (t.follow e)).trans (t.kind_follow e)

theorem size_follow (fits : e.Fits t) (fresh : t.store.Fresh) :
    (t.follow e).store.size = t.store.size + e.created?.toList.length := by
  cases e with
  | installed j ticket node id previous => exact fresh.size_created fits.2.2
  | superseded j ticket node id => exact fresh.size_created fits.2
  | placed j id location done =>
    cases done with
    | false => rfl
    | true => exact (t.store.placed_records id location).1
  | appended j entry done =>
    cases done with
    | false => rfl
    | true => exact (t.store.appended_records entry).1
  | _ => rfl

end Tracker

theorem Store.Fresh.follow {t : Tracker} {e : Event} (fresh : t.store.Fresh) (fits : e.Fits t) :
    (t.follow e).store.Fresh := by
  cases made : e.created? with
  | none =>
    intro d profile found
    rw [Tracker.profile?_follow fits, Event.profile_of_ne (by simp [made])] at found
    rw [Tracker.counter_follow made]
    exact fresh d profile found
  | some id =>
    cases e with
    | installed j ticket node id' previous => exact fresh.created fits.2.2
    | superseded j ticket node id' => exact fresh.created fits.2
    | _ => cases made

/-! ## 3. Traces -/

namespace Tells

variable {t : Tracker} {trace : List Event}

theorem fresh_after (told : Tells t trace) (fresh : t.store.Fresh) :
    (t.after trace).store.Fresh := by
  induction trace generalizing t with
  | nil => exact fresh
  | cons e rest ih => exact ih told.2 (fresh.follow told.1)

/-- There are as many records as were created. -/
theorem size_after (told : Tells t trace) (fresh : t.store.Fresh) :
    (t.after trace).store.size = t.store.size + (trace.filterMap Event.created?).length := by
  induction trace generalizing t with
  | nil => rfl
  | cons e rest ih =>
    rw [Tracker.after_cons, ih told.2 (fresh.follow told.1), Tracker.size_follow told.1 fresh]
    cases made : e.created? with
    | none =>
      rw [List.filterMap_cons_none made]
      rfl
    | some d =>
      rw [List.filterMap_cons_some made, List.length_cons, Option.toList_some,
        List.length_singleton]
      omega

/-- A profile stays where it is. -/
theorem profile?_keep (told : Tells t trace) (fresh : t.store.Fresh) {d : DurableId}
    {profile : Profile} (found : t.store.profile? d = some profile) :
    (t.after trace).store.profile? d = some profile := by
  induction trace generalizing t with
  | nil => exact found
  | cons e rest ih =>
    refine ih told.2 (fresh.follow told.1) ?_
    have old : e.created? ≠ some d := by
      intro made
      have next := (Tracker.counter_follow_created told.1 made).1
      have below := fresh d profile found
      omega
    rw [Tracker.profile?_follow told.1, Event.profile_of_ne old, found]

/-- A record has the profile of the announcement that it was created for. -/
theorem profile?_of_created (told : Tells t trace) (fresh : t.store.Fresh) {e : Event}
    (member : e ∈ trace) {d : DurableId} {profile : Profile}
    (made : ∀ before, e.profile d before = some profile) :
    (t.after trace).store.profile? d = some profile := by
  obtain ⟨a, b, rfl⟩ := List.append_of_mem member
  rw [Tracker.after_append, Tracker.after_cons]
  obtain ⟨toldA, fits, toldB⟩ := tells_append.1 told
  have freshA := toldA.fresh_after fresh
  refine toldB.profile?_keep (freshA.follow fits) ?_
  rw [Tracker.profile?_follow fits, made]

end Tells

end NodeWatch
