/-
NodeWatch.Proofs.Placing — locations that have been written.

A store keeps the location that was set last.  A job sets one at most: an
announcement sets its own in the record that was created for it, and a
location that came in is set in the record of the node that was found
(`Prelude`).  So a record has been created before anybody sets its location
(`created_of_placed`), and after a run it has the location that was written
last (`location?_last`).

A store of tables keeps zeros without their sign, so a location that is
kept agrees with the one that was set as a value and not as a word.
-/
import NodeWatch.Proofs.System.Story

namespace NodeWatch

/-! ## 1. What a store keeps -/

/-- Whether two locations are the same as values. -/
structure Location.Agrees (kept given : Location) : Prop where
  lat : kept.lat = given.lat ∨ kept.lat.sameValue given.lat = true
  lng : kept.lng = given.lng ∨ kept.lng.sameValue given.lng = true
  city : kept.city = given.city

theorem Column.ofDouble_agrees {x y : Binary64} (h : Column.ofDouble x = some y) :
    y = x ∨ y.sameValue x = true := by
  unfold Column.ofDouble at h
  split at h
  · cases h
  · split at h
    · next zero =>
      cases h
      have base : (Binary64.ofNat 0).isZero = true := by decide
      refine Or.inr ?_
      simp [Binary64.sameValue, base, zero]
    · cases h
      exact Or.inl rfl

namespace Store

/-- The location of the record with an id. -/
def location? (store : Store) (d : DurableId) : Option Location :=
  (store.find d).bind Record.location

theorem location?_placed {store : Store} {d : DurableId} {l : Location}
    (h : store.setLocation d l = .ok (store.placed d l)) :
    ∃ kept, (store.placed d l).location? d = some kept ∧ kept.Agrees l := by
  generalize store.placed d l = after at h
  cases store with
  | memory s =>
    simp only [setLocation, MemoryStore.setLocation] at h
    cases found : s.records.get? d with
    | none => simp [found, Except.map] at h
    | some record =>
      simp only [found, Except.map, Except.ok.injEq] at h
      subst h
      refine ⟨l, ?_, Or.inl rfl, Or.inl rfl, rfl⟩
      simp [location?, find, MemoryStore.find]
  | tables s =>
    simp only [setLocation, TableStore.setLocation] at h
    cases known : s.nodes.contains d with
    | false => simp [known, Except.map] at h
    | true =>
      cases lat : Column.ofDouble l.lat with
      | none => simp [known, lat, Except.map] at h
      | some lat' =>
        cases lng : Column.ofDouble l.lng with
        | none => simp [known, lat, lng, Except.map] at h
        | some lng' =>
          simp only [known, lat, lng, if_true, Except.map, Except.ok.injEq] at h
          subst h
          refine ⟨⟨lat', lng', l.city⟩, ?_, Column.ofDouble_agrees lat,
            Column.ofDouble_agrees lng, rfl⟩
          obtain ⟨profile, row⟩ := Option.isSome_iff_exists.1 known
          simp [location?, find, TableStore.find, row]

theorem location?_placed_of_ne (store : Store) {d d' : DurableId} (l : Location) (h : d' ≠ d) :
    (store.placed d' l).location? d = store.location? d := by
  unfold placed
  cases store with
  | memory s =>
    simp only [setLocation, MemoryStore.setLocation]
    cases s.records.get? d' with
    | none => rfl
    | some record =>
      simp [Except.map, location?, find, MemoryStore.find, Table.get?_insert_of_ne _ _ h]
  | tables s =>
    simp only [setLocation, TableStore.setLocation]
    cases s.nodes.contains d' with
    | false => rfl
    | true =>
      cases Column.ofDouble l.lat <;> cases Column.ofDouble l.lng <;>
        simp [Except.map, location?, find, TableStore.find, Table.get?_insert_of_ne _ _ h]

theorem location?_created {store : Store} {profile : Profile} {d d' : DurableId}
    (made : store.create profile = .ok (.ok (d', store.created profile))) (h : d' ≠ d) :
    (store.created profile).location? d = store.location? d := by
  cases store with
  | memory s =>
    obtain ⟨-, after⟩ := create_memory made
    rw [after]
    simp [location?, find, MemoryStore.find, Table.get?_insert_of_ne _ _ h]
  | tables s =>
    obtain ⟨-, after⟩ := create_tables made
    rw [after]
    simp [location?, find, TableStore.find, Table.get?_insert_of_ne _ _ h]

theorem location?_appended (store : Store) (entry : HistoryEntry) (d : DurableId) :
    (store.appended entry).location? d = store.location? d := by
  cases store with
  | memory s =>
    obtain ⟨history, after⟩ := appended_memory s entry
    rw [after]
    rfl
  | tables s =>
    obtain ⟨history, after⟩ := appended_tables s entry
    rw [after]
    rfl

end Store

/-! ## 2. The last write -/

/-- What is read off a list is read off its elements, one after the other. -/
theorem filterMap_cons_toList {α β : Type} (g : α → Option β) (x : α) (l : List α) :
    (x :: l).filterMap g = (g x).toList ++ l.filterMap g := by
  cases h : g x with
  | none => rw [List.filterMap_cons_none h, Option.toList_none, List.nil_append]
  | some y => rw [List.filterMap_cons_some h, Option.toList_some, List.singleton_append]

/-- What an event writes to the location of a record, and for which job. -/
def Event.wrote? (d : DurableId) : Event → Option (JobId × Location)
  | .placed j id l true => if id = d then some (j, l) else none
  | _ => none

namespace Event

theorem eq_placed_of_wrote? {d : DurableId} {e : Event} {j : JobId} {l : Location}
    (h : e.wrote? d = some (j, l)) : e = .placed j d l true := by
  cases e with
  | placed k id l' done =>
    cases done with
    | false => cases h
    | true =>
      simp only [wrote?] at h
      split at h
      · next same =>
        subst same
        cases h
        rfl
      · cases h
  | _ => cases h

theorem wrote?_eq_none_of_created? {e : Event} {d : DurableId} (h : e.created? = some d)
    (d' : DurableId) : e.wrote? d' = none := by
  cases e with
  | placed k id l' done => cases h
  | _ => rfl

end Event

/-- What is written to the location of a record, in the order of the
store. -/
def writes (d : DurableId) (trace : List Event) : List (JobId × Location) :=
  trace.filterMap (Event.wrote? d)

@[simp] theorem writes_nil (d : DurableId) : writes d [] = [] := rfl

theorem writes_cons (d : DurableId) (e : Event) (trace : List Event) :
    writes d (e :: trace) = (e.wrote? d).toList ++ writes d trace :=
  filterMap_cons_toList (Event.wrote? d) e trace

theorem writes_append (d : DurableId) (a b : List Event) :
    writes d (a ++ b) = writes d a ++ writes d b :=
  List.filterMap_append

namespace Tracker

variable {t : Tracker} {e : Event} {d : DurableId}

theorem location?_follow (fits : e.Fits t) (made : e.created? ≠ some d)
    (quiet : e.wrote? d = none) : (t.follow e).store.location? d = t.store.location? d := by
  cases e with
  | installed j ticket node id previous =>
    exact Store.location?_created fits.2.2 fun same => made (congrArg some same)
  | superseded j ticket node id =>
    exact Store.location?_created fits.2 fun same => made (congrArg some same)
  | placed j id l done =>
    cases done with
    | false => rfl
    | true =>
      refine t.store.location?_placed_of_ne l fun same => ?_
      rw [Event.wrote?, if_pos same] at quiet
      cases quiet
  | appended j entry done =>
    cases done with
    | false => rfl
    | true => exact t.store.location?_appended entry d
  | _ => rfl

theorem location?_follow_wrote (fits : e.Fits t) {j : JobId} {l : Location}
    (wrote : e.wrote? d = some (j, l)) :
    ∃ kept, (t.follow e).store.location? d = some kept ∧ kept.Agrees l := by
  obtain rfl := Event.eq_placed_of_wrote? wrote
  exact Store.location?_placed fits

end Tracker

/-- From the creation of a record on, it has the location that was written
last. -/
theorem Tells.location?_last {t : Tracker} {trace : List Event} {d : DurableId}
    (told : Tells t trace) (made : ∀ e ∈ trace, e.created? ≠ some d) {j : JobId} {l : Location}
    (last : (writes d trace).getLast? = some (j, l)) :
    ∃ kept, (t.after trace).store.location? d = some kept ∧ kept.Agrees l := by
  induction trace using List.reverseRecOn with
  | nil => cases last
  | append_singleton trace e ih =>
    obtain ⟨told, fits, -⟩ := tells_append.1 told
    rw [Tracker.after_append, Tracker.after_cons, Tracker.after_nil]
    rw [writes_append, writes_cons, writes_nil, List.append_nil] at last
    cases wrote : e.wrote? d with
    | none =>
      rw [wrote, Option.toList_none, List.append_nil] at last
      rw [Tracker.location?_follow fits (made e (by simp)) wrote]
      exact ih told (fun e' he' => made e' (List.mem_append_left _ he')) last
    | some write =>
      rw [wrote, Option.toList_some, List.getLast?_concat] at last
      cases last
      exact Tracker.location?_follow_wrote fits wrote

/-! ## 3. Who writes -/

/-- A mark on the events that set a location. -/
def Event.placing? (e : Event) : Option Unit :=
  if e.work = .placing then some () else none

/-- What a job tells before it sets a location: it has created the record
for an announcement with that location, or it has found the node of a
location that came in. -/
inductive Prelude (j : JobId) (d : DurableId) (l : Location) : List Event → Prop
  | created {ticket : Ticket} {node : Announcement} {e : Event}
      (created : e.Creates j ticket node d) (carried : node.location = some l) :
      Prelude j d l [.announced j ticket node, e]
  | found {f : FeedId} {tries : List Event} (tried : ∀ e ∈ tries, e = .looked j f none) :
      Prelude j d l (.located j f l :: (tries ++ [.looked j f (some d)]))

theorem Event.Creates.not_placing {j : JobId} {ticket : Ticket} {node : Announcement}
    {d : DurableId} {e : Event} (h : e.Creates j ticket node d) : e.work ≠ .placing := by
  rw [h.work]
  decide

theorem Prelude.work_ne {j : JobId} {d : DurableId} {l : Location} {log : List Event}
    (h : Prelude j d l log) : ∀ e ∈ log, e.work ≠ .placing := by
  cases h with
  | created created carried =>
    exact List.forall_mem_cons.2
      ⟨by simp [Event.work], List.forall_mem_singleton.2 created.not_placing⟩
  | found tried => exact Story.work_ne_of_tried tried (by decide) (by simp [Event.work])

namespace Story

variable {j : JobId} {log : List Event} {left : Option Job}

/-- A job sets one location at most, and last. -/
theorem placing (h : Story j log left) :
    (∀ e ∈ log, e.work ≠ .placing) ∨ ∃ head d l done result,
      log = head ++ .placed j d l done :: [.ended j result] ∧ Prelude j d l head := by
  cases h with
  | aside aside flush =>
    refine Or.inl fun e he => ?_
    rcases aside e he with work | work <;> rw [work] <;> decide
  | unbegun told node => exact Or.inl (List.forall_mem_nil _)
  | creating told ticket node => exact Or.inl (by simp [Event.work])
  | uncreated ticket node cause result => exact Or.inl (by simp [Event.work])
  | created created carried =>
    refine Or.inl (List.forall_mem_cons.2 ⟨?_, List.forall_mem_cons.2 ⟨?_, ?_⟩⟩)
    · simp [Event.work]
    · exact created.not_placing
    · simp [Event.work]
  | homing told created carried =>
    refine Or.inl (List.forall_mem_cons.2 ⟨?_, List.forall_mem_singleton.2 created.not_placing⟩)
    simp [Event.work]
  | homed created carried => exact Or.inr ⟨_, _, _, _, _, rfl, .created created carried⟩
  | looking stands tried => exact Or.inl (work_ne_of_tries tried (by decide))
  | unknown tried lost =>
    exact Or.inl (work_ne_of_tried tried (by decide) (by simp [Event.work]))
  | setting stands tried =>
    exact Or.inl (work_ne_of_tried tried (by decide) (by simp [Event.work]))
  | @set f l tries d done result tried applied =>
    have shape : .located j f l :: (tries ++ [.looked j f (some d), .placed j d l done,
        .ended j result]) = .located j f l :: (tries ++ [.looked j f (some d)]) ++
          .placed j d l done :: [.ended j result] := by simp
    exact Or.inr ⟨_, d, l, done, result, shape, .found tried⟩

theorem placed (h : Story j log left) {a b : List Event} {k : JobId} {d : DurableId}
    {l : Location} {done : Bool} (place : log = a ++ .placed k d l done :: b) :
    Prelude j d l a := by
  rcases h.placing with quiet | ⟨head, d', l', done', result, shape, before⟩
  · exact absurd rfl (quiet (.placed k d l done) (place ▸ by simp))
  · have quiet : head.filterMap Event.placing? = [] :=
      List.filterMap_eq_nil_iff.2 fun e he => if_neg (before.work_ne e he)
    have once : (log.filterMap Event.placing?).Nodup := by
      rw [shape, List.filterMap_append, quiet]
      simp [Event.placing?, Event.work]
    obtain ⟨rfl, same, -⟩ := place_unique once place shape rfl rfl
    cases same
    exact before

end Story

/-- Whether the store has refused no record and no location. -/
structure Unrefused (trace : List Event) : Prop where
  created : ∀ j ticket cause, .uncreated j ticket cause ∉ trace
  placed : ∀ j d l, .placed j d l false ∉ trace

namespace History

variable {store : Store} {policy : RetryPolicy} {moves : List Move}

/-- Before a location is set, its job has told where it has the location
and the record from. -/
theorem prelude_of_placed (feed : ∀ m ∈ moves, m.OfFeed) {a b : List Event} {j : JobId}
    {d : DurableId} {l : Location} {done : Bool}
    (place : (run store policy moves).trace = a ++ .placed j d l done :: b) :
    Prelude j d l (logOf j a) :=
  (run_story store policy feed j).placed (logOf_split place rfl)

end History

/-- A node that has been found is installed under its feed id, and lives. -/
theorem Tells.installed_of_looked {store : Store} {policy : RetryPolicy} {p q : List Event}
    {j : JobId} {f : FeedId} {d : DurableId}
    (told : Tells (.ofStore store policy) (p ++ .looked j f (some d) :: q)) :
    ∃ before k ticket node previous life,
      p = before ++ .installed k ticket node d previous :: life ∧ ticket.feedId = f ∧
        ∀ e ∈ life, e.ends f = false := by
  have found : some d = ((Tracker.ofStore store policy).after p).registry.durableId? f := told.fits
  obtain ⟨s, tracked, rfl⟩ := Option.map_eq_some_iff.1 found.symm
  exact (tells_append.1 told).1.exists_installed tracked

namespace History

variable {store : Store} {policy : RetryPolicy} {moves : List Move}

/-- A location is set only in a record that has been created before. -/
theorem created_of_placed (feed : ∀ m ∈ moves, m.OfFeed) {a b : List Event} {j : JobId}
    {d : DurableId} {l : Location} {done : Bool}
    (place : (run store policy moves).trace = a ++ .placed j d l done :: b) :
    ∃ e ∈ a, e.created? = some d := by
  have told := (run_tells store policy moves).1
  have before := prelude_of_placed feed place
  generalize log : logOf j a = head at before
  cases before with
  | @created ticket node e created carried =>
    have inLog : e ∈ logOf j a := log ▸ by simp
    exact ⟨e, mem_of_mem_logOf inLog, created.created?⟩
  | @found f tries tried =>
    have inLog : .looked j f (some d) ∈ logOf j a := log ▸ by simp
    obtain ⟨p, q, rfl⟩ := List.append_of_mem (mem_of_mem_logOf inLog)
    rw [place, List.append_assoc] at told
    obtain ⟨before, k, ticket, node, previous, life, rfl, -, -⟩ := told.installed_of_looked
    exact ⟨.installed k ticket node d previous, by simp, rfl⟩

/-- Nothing is written to a record before it is created. -/
theorem writes_before_created (feed : ∀ m ∈ moves, m.OfFeed) {a b : List Event} {e : Event}
    {d : DurableId} (place : (run store policy moves).trace = a ++ e :: b)
    (created : e.created? = some d) : writes d a = [] := by
  refine List.filterMap_eq_nil_iff.2 fun w told => ?_
  cases wrote : w.wrote? d with
  | none => rfl
  | some write =>
    obtain ⟨j, l⟩ := write
    obtain rfl := Event.eq_placed_of_wrote? wrote
    obtain ⟨p, q, rfl⟩ := List.append_of_mem told
    have place' : (run store policy moves).trace = p ++ .placed j d l true :: (q ++ e :: b) := by
      rw [place, List.append_assoc]
      rfl
    obtain ⟨e', early, created'⟩ := created_of_placed feed place'
    have once := counts_ids.nodup (run_tells store policy moves).1
    rw [place] at once
    exact absurd created' ((ne_elsewhere once created).1 e' (List.mem_append_left _ early))

/-- The location of a record is the one that was written last. -/
theorem location?_last (feed : ∀ m ∈ moves, m.OfFeed) {d : DurableId} {j : JobId} {l : Location}
    (last : (writes d (run store policy moves).trace).getLast? = some (j, l)) :
    ∃ kept, (run store policy moves).system.tracker.store.location? d = some kept ∧
      kept.Agrees l := by
  obtain ⟨told, tracker⟩ := run_tells store policy moves
  obtain ⟨w, inTrace, wrote⟩ := List.mem_filterMap.1 (List.mem_of_getLast? last)
  obtain rfl := Event.eq_placed_of_wrote? wrote
  obtain ⟨a, b, place⟩ := List.append_of_mem inTrace
  obtain ⟨e, early, created⟩ := created_of_placed feed place
  obtain ⟨p, q, rfl⟩ := List.append_of_mem early
  -- From here on: the record is created after `p`, and all writes come later.
  rw [List.append_assoc, List.cons_append] at place
  have before := writes_before_created feed place created
  rw [tracker]
  rw [place] at told last ⊢
  rw [writes_append, before, List.nil_append, writes_cons,
    Event.wrote?_eq_none_of_created? created d, Option.toList_none, List.nil_append] at last
  rw [Tracker.after_append]
  exact (tells_append.1 told).2.2.location?_last
    (ne_elsewhere (counts_ids.nodup told) created).2 last

end History

end NodeWatch
