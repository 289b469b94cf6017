/-
NodeWatch.Proofs.System.Origin — where tracked nodes come from.

The ids of a store only go up, and so do the numbers of tickets (`Counts`).
So a trace creates no id twice and issues no ticket twice, and an id names
one place in the trace: the event that created its record.  A node
that is tracked has been installed, and nothing has ended its installation
since (`exists_installed`).  Together: whoever is tracked with an id is
tracked under the feed id that it was installed for, and the trace so far
is that installation with its life behind it (`life_of_tracked`).
-/
import Mathlib.Data.List.Induction
import NodeWatch.Proofs.System.Lookup

namespace NodeWatch

/-! ## 1. Places in a trace -/

/-- A value that is read off a list only once names one place in it. -/
theorem place_unique {α β : Type} {g : α → Option β} {l a b a' b' : List α} {x x' : α} {y : β}
    (once : (l.filterMap g).Nodup) (h : l = a ++ x :: b) (h' : l = a' ++ x' :: b')
    (hx : g x = some y) (hx' : g x' = some y) : a = a' ∧ x = x' ∧ b = b' := by
  induction a generalizing l a' with
  | nil =>
    cases a' with
    | nil =>
      obtain ⟨rfl, rfl⟩ := List.cons.inj (h.symm.trans h')
      exact ⟨rfl, rfl, rfl⟩
    | cons c rest =>
      obtain ⟨rfl, rfl⟩ := List.cons.inj (h.symm.trans h')
      rw [h, List.nil_append, List.filterMap_cons_some hx] at once
      have again : y ∈ (rest ++ x' :: b').filterMap g :=
        List.mem_filterMap.2 ⟨x', by simp, hx'⟩
      exact absurd again (List.nodup_cons.1 once).1
  | cons c rest ih =>
    cases a' with
    | nil =>
      obtain ⟨rfl, rfl⟩ := List.cons.inj (h.symm.trans h')
      rw [h', List.nil_append, List.filterMap_cons_some hx'] at once
      have again : y ∈ (rest ++ x :: b).filterMap g :=
        List.mem_filterMap.2 ⟨x, by simp, hx⟩
      exact absurd again (List.nodup_cons.1 once).1
    | cons c' rest' =>
      obtain ⟨rfl, tails⟩ := List.cons.inj (h.symm.trans h')
      have onceRest : ((rest ++ x :: b).filterMap g).Nodup := by
        rw [h, List.cons_append] at once
        exact once.sublist (List.Sublist.filterMap g (List.sublist_cons_self _ _))
      obtain ⟨rfl, same⟩ := ih onceRest rfl tails
      exact ⟨rfl, same⟩

/-- A value that is read off a list only once is that of one element. -/
theorem mem_unique {α β : Type} {g : α → Option β} {l : List α} {x x' : α} {y : β}
    (once : (l.filterMap g).Nodup) (h : x ∈ l) (h' : x' ∈ l) (hx : g x = some y)
    (hx' : g x' = some y) : x = x' := by
  obtain ⟨a, b, place⟩ := List.append_of_mem h
  obtain ⟨a', b', place'⟩ := List.append_of_mem h'
  exact (place_unique once place place' hx hx').2.1

/-- A value that is read off a list only once is read nowhere else. -/
theorem ne_elsewhere {α β : Type} {g : α → Option β} {a b : List α} {x : α} {y : β}
    (once : ((a ++ x :: b).filterMap g).Nodup) (hx : g x = some y) :
    (∀ x' ∈ a, g x' ≠ some y) ∧ ∀ x' ∈ b, g x' ≠ some y := by
  rw [List.filterMap_append, List.filterMap_cons_some hx, List.nodup_append,
    List.nodup_cons] at once
  obtain ⟨-, ⟨later, -⟩, apart⟩ := once
  constructor
  · intro x' hx' again
    exact apart y (List.mem_filterMap.2 ⟨x', hx', again⟩) y List.mem_cons_self rfl
  · intro x' hx' again
    exact later (List.mem_filterMap.2 ⟨x', hx', again⟩)

/-! ## 2. Ids and tickets are given once -/

/-- A reading of the tracker that counts what events give out: an event
that gives something out gives the next value, and no other event changes
the reading. -/
structure Counts {β : Type} (given? : Event → Option β) (value : β → Int)
    (reading : Tracker → Int) : Prop where
  other : ∀ {t e}, e.Fits t → given? e = none → reading (t.follow e) = reading t
  next : ∀ {t e x}, e.Fits t → given? e = some x →
    value x = reading t + 1 ∧ reading (t.follow e) = value x

namespace Counts

variable {β : Type} {given? : Event → Option β} {value : β → Int} {reading : Tracker → Int}
  {t : Tracker} {trace : List Event}

theorem le (counts : Counts given? value reading) (told : Tells t trace) :
    reading t ≤ reading (t.after trace) := by
  induction trace generalizing t with
  | nil => exact Int.le_refl _
  | cons e rest ih =>
    obtain ⟨fits, told⟩ := told
    have later := ih told
    rw [Tracker.after_cons]
    cases given : given? e with
    | none =>
      have same := counts.other fits given
      omega
    | some x =>
      have next := counts.next fits given
      omega

/-- What is given out is above the reading at the beginning, and not above
the one at the end. -/
theorem bounds (counts : Counts given? value reading) (told : Tells t trace) {x : β}
    (h : x ∈ trace.filterMap given?) :
    reading t < value x ∧ value x ≤ reading (t.after trace) := by
  induction trace generalizing t with
  | nil => cases h
  | cons e rest ih =>
    obtain ⟨fits, told⟩ := told
    rw [Tracker.after_cons]
    cases given : given? e with
    | none =>
      have same := counts.other fits given
      rw [List.filterMap_cons_none given] at h
      have later := ih told h
      omega
    | some first =>
      have next := counts.next fits given
      rw [List.filterMap_cons_some given] at h
      rcases List.mem_cons.1 h with rfl | h
      · have later := counts.le told
        omega
      · have later := ih told h
        omega

/-- The reading goes up by one with each thing that is given out. -/
theorem length (counts : Counts given? value reading) (told : Tells t trace) :
    reading (t.after trace) = reading t + (trace.filterMap given?).length := by
  induction trace generalizing t with
  | nil => exact (Int.add_zero _).symm
  | cons e rest ih =>
    obtain ⟨fits, told⟩ := told
    rw [Tracker.after_cons, ih told]
    cases given : given? e with
    | none => rw [List.filterMap_cons_none given, counts.other fits given]
    | some first =>
      have next := counts.next fits given
      rw [List.filterMap_cons_some given, List.length_cons]
      omega

/-- Nothing is given out twice. -/
theorem nodup (counts : Counts given? value reading) (told : Tells t trace) :
    (trace.filterMap given?).Nodup := by
  induction trace generalizing t with
  | nil => exact List.nodup_nil
  | cons e rest ih =>
    obtain ⟨fits, told⟩ := told
    cases given : given? e with
    | none =>
      rw [List.filterMap_cons_none given]
      exact ih told
    | some first =>
      rw [List.filterMap_cons_some given, List.nodup_cons]
      refine ⟨?_, ih told⟩
      intro again
      have later := (counts.bounds told again).1
      have next := counts.next fits given
      omega

end Counts

theorem counts_ids : Counts Event.created? Int64.toInt fun t => t.store.counter.toInt where
  other _ h := congrArg Int64.toInt (Tracker.counter_follow h)
  next fits h :=
    (Tracker.counter_follow_created fits h).imp_right fun counter => congrArg Int64.toInt counter

theorem counts_tickets :
    Counts Event.issued? (fun ticket => (ticket.number : Int)) fun t => t.registry.issued where
  other _ h := congrArg Nat.cast (Tracker.issued_follow h)
  next fits h := by
    obtain ⟨number, issued⟩ := Tracker.issued_follow_issued fits h
    exact ⟨by omega, congrArg Nat.cast issued⟩

/-! ## 3. The life of an installation -/

/-- Whether an event ends what is installed under a feed id: the node is
removed, or another one is installed there. -/
def Event.ends (f : FeedId) : Event → Bool
  | .removed g _ => decide (g = f)
  | .installed _ ticket _ _ _ => decide (ticket.feedId = f)
  | _ => false

/-- An event that does not end an installation leaves its id. -/
theorem Event.durableId_statistics {f : FeedId} {e : Event} (h : e.ends f = false)
    (before : Option Tracked) :
    (e.statistics f before).map Tracked.durableId = before.map Tracked.durableId := by
  cases e with
  | imported g b known =>
    simp only [statistics]
    split <;> simp [Function.comp_def, Tracked.record]
  | gauged g gauges known =>
    simp only [statistics]
    split <;> simp [Function.comp_def, Tracked.withGauges]
  | removed g previous =>
    simp only [ends, decide_eq_false_iff_not] at h
    simp [statistics, h]
  | installed j ticket node id previous =>
    simp only [ends, decide_eq_false_iff_not] at h
    simp [statistics, h]
  | snapped j now readings => simp [statistics, Function.comp_def, Tracked.reset]
  | _ => rfl

namespace Tells

variable {store : Store} {policy : RetryPolicy} {trace : List Event}

/-- A tracked node has been installed, and its installation has not been
ended since. -/
theorem exists_installed (told : Tells (.ofStore store policy) trace) {f : FeedId} {s : Tracked}
    (h : ((Tracker.ofStore store policy).after trace).registry.get? f = some s) :
    ∃ before j ticket node previous life,
      trace = before ++ .installed j ticket node s.durableId previous :: life ∧
        ticket.feedId = f ∧ ∀ e ∈ life, e.ends f = false := by
  induction trace using List.reverseRecOn generalizing s with
  | nil => cases h
  | append_singleton trace e ih =>
    obtain ⟨told, fits, _⟩ := tells_append.1 told
    rw [Tracker.after_append, Tracker.after_cons, Tracker.after_nil,
      Tracker.get?_follow fits] at h
    -- The last event either leaves the installation or ends it.
    cases ends : e.ends f with
    | false =>
      have same := Event.durableId_statistics ends
        (((Tracker.ofStore store policy).after trace).registry.get? f)
      rw [h, Option.map_some] at same
      obtain ⟨s', found, id⟩ := Option.map_eq_some_iff.1 same.symm
      obtain ⟨before, j, ticket, node, previous, life, rfl, feedId, alive⟩ := ih told found
      rw [id]
      refine ⟨before, j, ticket, node, previous, life ++ [e], ?_, feedId, ?_⟩
      · simp
      · intro e' he'
        rcases List.mem_append.1 he' with old | new
        · exact alive e' old
        · rw [List.mem_singleton.1 new]
          exact ends
    | true =>
      cases e with
      | removed g previous =>
        simp only [Event.ends, decide_eq_true_eq] at ends
        simp [Event.statistics, ends] at h
      | installed j ticket node id previous =>
        simp only [Event.ends, decide_eq_true_eq] at ends
        simp only [Event.statistics, ends, if_true, Option.some.injEq] at h
        subst h
        exact ⟨trace, j, ticket, node, previous, [], rfl, ends, List.forall_mem_nil _⟩
      | _ => cases ends

/-- Whoever is tracked with an id, at whatever point of a trace, is what
was installed with it, and still lives. -/
theorem life_of_tracked {before after p q : List Event} {j : JobId} {ticket : Ticket}
    {node : Announcement} {d : DurableId} {previous : Option Tracked}
    (told : Tells (.ofStore store policy) trace)
    (place : trace = before ++ .installed j ticket node d previous :: after)
    (sofar : trace = p ++ q) {g : FeedId} {s : Tracked}
    (tracked : ((Tracker.ofStore store policy).after p).registry.get? g = some s)
    (id : s.durableId = d) :
    g = ticket.feedId ∧ ∃ life, p = before ++ .installed j ticket node d previous :: life ∧
      after = life ++ q ∧ ∀ e ∈ life, e.ends ticket.feedId = false := by
  subst id
  have toldSofar : Tells (.ofStore store policy) p := (tells_append.1 (sofar ▸ told)).1
  obtain ⟨before', j', ticket', node', previous', life, rfl, rfl, alive⟩ :=
    toldSofar.exists_installed tracked
  have place' : trace = before' ++ .installed j' ticket' node' s.durableId previous' ::
      (life ++ q) := by
    rw [sofar]
    simp
  obtain ⟨rfl, same, rfl⟩ := place_unique (counts_ids.nodup told) place place' rfl rfl
  obtain ⟨rfl, rfl, rfl, -, rfl⟩ := Event.installed.inj same
  exact ⟨rfl, life, rfl, rfl, alive⟩

/-- No two nodes are tracked with one id. -/
theorem feedId_unique (told : Tells (.ofStore store policy) trace) {f g : FeedId}
    {s s' : Tracked} (hf : ((Tracker.ofStore store policy).after trace).registry.get? f = some s)
    (hg : ((Tracker.ofStore store policy).after trace).registry.get? g = some s')
    (same : s'.durableId = s.durableId) : g = f := by
  obtain ⟨before, j, ticket, node, previous, life, place, rfl, _⟩ := told.exists_installed hf
  exact (told.life_of_tracked place (List.append_nil trace).symm hg same).1

end Tells

/-! ## 4. Counting in words -/

/-- The tickets of a run fit words of 64 bits, as long as there are few enough. -/
theorem History.run_wordsSuffice (store : Store) (policy : RetryPolicy) (moves : List Move) :
    (run store policy moves).registry.WordsSuffice
      ((run store policy moves).trace.filterMap Event.issued?) := by
  obtain ⟨told, after⟩ := run_tells store policy moves
  rw [registry, after]
  have none : (Tracker.ofStore store policy).registry.issued = 0 := rfl
  have counted := counts_tickets.length told
  refine Registry.wordsSuffice_of_le (by omega) fun ticket member => ?_
  have bound := (counts_tickets.bounds told member).2
  omega

end NodeWatch
