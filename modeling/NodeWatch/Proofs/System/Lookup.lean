/-
NodeWatch.Proofs.System.Lookup — what is found after an event.

A feed id has statistics and the number of a current ticket, a registry
has the number of its latest ticket, and a store has the id of its latest
record.  For each of the four there is one statement of what an event makes
of it, whatever the event is.  Facts about runs read these statements and
never the operations.
-/
import NodeWatch.Proofs.System.Telling

namespace NodeWatch

/-! ## 1. Feed ids -/

namespace Event

/-- What an event makes of the statistics under a feed id. -/
def statistics (f : FeedId) (before : Option Tracked) : Event → Option Tracked
  | imported g b _ => if g = f then before.map (Tracked.record · b) else before
  | gauged g gauges _ => if g = f then before.map (Tracked.withGauges · gauges) else before
  | removed g _ => if g = f then none else before
  | installed _ ticket node id _ => if ticket.feedId = f then some (node.tracked id) else before
  | snapped _ _ _ => before.map Tracked.reset
  | _ => before

/-- What an event makes of the number of the current ticket of a feed id. -/
def ticket (f : FeedId) (before : Option Nat) : Event → Option Nat
  | issued ticket => if ticket.feedId = f then some ticket.number else before
  | announced _ ticket _ => if ticket.feedId = f then some ticket.number else before
  | removed g _ => if g = f then none else before
  | installed _ ticket _ _ _ => if ticket.feedId = f then none else before
  | uncreated _ ticket (some _) =>
    if ticket.feedId = f ∧ before = some ticket.number then none else before
  | _ => before

end Event

namespace Tracker

theorem get?_follow {t : Tracker} {e : Event} (fits : e.Fits t) (f : FeedId) :
    (t.follow e).registry.get? f = e.statistics f (t.registry.get? f) := by
  cases e with
  | imported g b known =>
    refine (t.registry.get?_modify g f _).trans ?_
    by_cases h : g = f
    · subst h
      rfl
    · simp [Event.statistics, h]
  | gauged g gauges known =>
    refine (t.registry.get?_modify g f _).trans ?_
    by_cases h : g = f
    · subst h
      rfl
    · simp [Event.statistics, h]
  | removed g previous => exact t.registry.get?_remove g f
  | installed j ticket node id previous => exact Registry.get?_install fits.1 _ f
  | snapped j now readings => exact t.registry.get?_snapshot f
  | uncreated j ticket cause =>
    cases cause with
    | none => rfl
    | some cause => exact t.registry.get?_abandon ticket f
  | _ => rfl

theorem ticket?_follow {t : Tracker} {e : Event} (fits : e.Fits t) (f : FeedId) :
    (t.follow e).registry.ticket? f = e.ticket f (t.registry.ticket? f) := by
  cases e with
  | issued ticket =>
    have number : ticket.number = t.registry.issued + 1 := congrArg Ticket.number fits
    refine (t.registry.ticket?_issue ticket.feedId f).trans ?_
    rw [← number]
    rfl
  | announced j ticket node =>
    have number : ticket.number = t.registry.issued + 1 := congrArg Ticket.number fits
    refine (t.registry.ticket?_issue ticket.feedId f).trans ?_
    rw [← number]
    rfl
  | imported g b known => exact t.registry.ticket?_modify g f _
  | gauged g gauges known => exact t.registry.ticket?_modify g f _
  | removed g previous => exact t.registry.ticket?_remove g f
  | installed j ticket node id previous => exact Registry.ticket?_install fits.1 _ f
  | snapped j now readings => exact t.registry.ticket?_snapshot f
  | uncreated j ticket cause =>
    cases cause with
    | none => rfl
    | some cause =>
      refine (t.registry.ticket?_abandon ticket f).trans ?_
      simp only [Registry.isCurrent_iff, Event.ticket]
      by_cases h : ticket.feedId = f
      · subst h
        simp [and_comm]
      · simp [h]
  | _ => rfl

end Tracker

/-! ## 2. Numbers of tickets -/

/-- The ticket that an event tells to have been issued. -/
def Event.issued? : Event → Option Ticket
  | .issued ticket => some ticket
  | .announced _ ticket _ => some ticket
  | _ => none

namespace Tracker

theorem issued_follow {t : Tracker} {e : Event} (h : e.issued? = none) :
    (t.follow e).registry.issued = t.registry.issued := by
  cases e with
  | issued ticket => cases h
  | announced j ticket node => cases h
  | imported f b known => exact t.registry.issued_modify f _
  | gauged f g known => exact t.registry.issued_modify f _
  | installed j ticket node id previous => exact t.registry.issued_install ticket _
  | uncreated j ticket cause =>
    cases cause with
    | none => rfl
    | some cause => exact t.registry.issued_abandon ticket
  | _ => rfl

/-- Tickets are numbered one after the other. -/
theorem issued_follow_issued {t : Tracker} {e : Event} (fits : e.Fits t) {ticket : Ticket}
    (h : e.issued? = some ticket) :
    ticket.number = t.registry.issued + 1 ∧ (t.follow e).registry.issued = ticket.number := by
  cases e with
  | issued ticket' =>
    cases h
    have number : ticket.number = t.registry.issued + 1 := congrArg Ticket.number fits
    exact ⟨number, number.symm⟩
  | announced j ticket' node =>
    cases h
    have number : ticket.number = t.registry.issued + 1 := congrArg Ticket.number fits
    exact ⟨number, number.symm⟩
  | _ => cases h

end Tracker

/-! ## 3. Ids of records -/

namespace Event

/-- The id of the record that has been created. -/
def created? : Event → Option DurableId
  | installed _ _ _ id _ => some id
  | superseded _ _ _ id => some id
  | _ => none

end Event

namespace Store

/-- The id that the next record goes on after. -/
def counter : Store → DurableId
  | .memory s => s.latest
  | .tables s => s.sequence

theorem create_memory {s : MemoryStore} {store : Store} {profile : Profile} {id : DurableId}
    (h : (memory s).create profile = .ok (.ok (id, store))) :
    Word.add s.latest 1 = .ok id ∧ store =
      .memory { s with latest := id, records := s.records.insert id ⟨id, profile, none⟩ } := by
  simp only [create, MemoryStore.create] at h
  cases sum : Word.add s.latest 1 with
  | error cause => simp [sum, Except.map, bind, Except.bind] at h
  | ok next =>
    simp only [sum, Except.map, bind, Except.bind, pure, Except.pure, Except.ok.injEq,
      Prod.mk.injEq] at h
    obtain ⟨rfl, rfl⟩ := h
    exact ⟨rfl, rfl⟩

theorem create_tables {s : TableStore} {store : Store} {profile : Profile} {id : DurableId}
    (h : (tables s).create profile = .ok (.ok (id, store))) :
    Word.add s.sequence 1 = .ok id ∧ store =
      .tables { s with nodes := s.nodes.insert id profile, sequence := id } := by
  simp only [create, TableStore.create] at h
  cases sum : Word.add s.sequence 1 with
  | error cause => simp [sum, Except.map] at h
  | ok next =>
    simp only [sum, Except.map, Except.ok.injEq, Prod.mk.injEq] at h
    obtain ⟨rfl, rfl⟩ := h
    exact ⟨rfl, rfl⟩

/-- Appending changes nothing but the history. -/
theorem appended_memory (s : MemoryStore) (entry : HistoryEntry) :
    ∃ history, (memory s).appended entry = .memory { s with history } := by
  simp only [appended, append, MemoryStore.append]
  cases s.records.contains entry.node with
  | false => exact ⟨s.history, rfl⟩
  | true => exact ⟨_, rfl⟩

theorem appended_tables (s : TableStore) (entry : HistoryEntry) :
    ∃ history, (tables s).appended entry = .tables { s with history } := by
  simp only [appended, append, TableStore.append]
  cases HistoryRow.ofEntry entry with
  | error cause => exact ⟨s.history, rfl⟩
  | ok row =>
    simp only [bind, Except.bind]
    cases s.nodes.contains row.node with
    | false => exact ⟨s.history, rfl⟩
    | true => exact ⟨_, rfl⟩

theorem counter_create {store store' : Store} {profile : Profile} {id : DurableId}
    (h : store.create profile = .ok (.ok (id, store'))) :
    id.toInt = store.counter.toInt + 1 ∧ store'.counter = id := by
  cases store with
  | memory s =>
    obtain ⟨sum, rfl⟩ := create_memory h
    exact ⟨Word.toInt_of_signed sum, rfl⟩
  | tables s =>
    obtain ⟨sum, rfl⟩ := create_tables h
    exact ⟨Word.toInt_of_signed sum, rfl⟩

@[simp] theorem counter_placed (store : Store) (id : DurableId) (location : Location) :
    (store.placed id location).counter = store.counter := by
  unfold placed
  cases store with
  | memory s =>
    simp only [setLocation, MemoryStore.setLocation]
    cases s.records.get? id <;> rfl
  | tables s =>
    simp only [setLocation, TableStore.setLocation]
    cases s.nodes.contains id with
    | false => rfl
    | true => cases Column.ofDouble location.lat <;> cases Column.ofDouble location.lng <;> rfl

@[simp] theorem counter_appended (store : Store) (entry : HistoryEntry) :
    (store.appended entry).counter = store.counter := by
  cases store with
  | memory s =>
    obtain ⟨history, after⟩ := appended_memory s entry
    rw [after]
    rfl
  | tables s =>
    obtain ⟨history, after⟩ := appended_tables s entry
    rw [after]
    rfl

end Store

namespace Tracker

/-- An event that creates no record leaves the counter alone. -/
theorem counter_follow {t : Tracker} {e : Event} (h : e.created? = none) :
    (t.follow e).store.counter = t.store.counter := by
  cases e with
  | installed j ticket node id previous => cases h
  | superseded j ticket node id => cases h
  | placed j id location done =>
    cases done with
    | false => rfl
    | true => exact t.store.counter_placed id location
  | appended j entry done =>
    cases done with
    | false => rfl
    | true => exact t.store.counter_appended entry
  | _ => rfl

/-- A created record has the id after the counter, and the counter goes on
to it. -/
theorem counter_follow_created {t : Tracker} {e : Event} (fits : e.Fits t) {id : DurableId}
    (h : e.created? = some id) :
    id.toInt = t.store.counter.toInt + 1 ∧ (t.follow e).store.counter = id := by
  cases e with
  | installed j ticket node id' previous =>
    cases h
    exact Store.counter_create fits.2.2
  | superseded j ticket node id' =>
    cases h
    exact Store.counter_create fits.2
  | _ => cases h

end Tracker

end NodeWatch
