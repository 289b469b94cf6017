/-
NodeWatch.Proofs.Separation — feed ids do not interfere.

All feed ids draw their tickets from one counter, so what is asked for one feed
id shows in the ticket numbers of all others.  It shows nowhere else: leave out
of a run whatever concerns other feed ids, and everything that is seen of this
one stays as it was (`feed_ids_apart`).

Whoever asks a registry does not choose the numbers of tickets.  So here a
holder keeps its tickets under names, and its requests speak of names; what is
left of a run when some requests are left out is then the same requests, though
their tickets have other numbers.  Nothing is lost by it: every sequence of
operations that uses only tickets issued before is what some requests come to
(`exists_requests`).

Two runs are compared by what they say of one feed id (`Alike`): they have the
same statistics, both or neither have a current ticket, and of the tickets that
are kept under one name both or neither are current.  For that it must be known
that no ticket is kept whose number is still to come.
-/
import Mathlib.Data.List.Induction
import NodeWatch.Proofs.Tickets

namespace NodeWatch

open Registry (Operation Answer)

/-! ## 1. Holders of tickets -/

/-- A registry, and the tickets that somebody has been issued by it: their
numbers, under the feed id of the ticket and the name that it was given. -/
structure Holder where
  registry : Registry
  numbers : Table (FeedId × Nat) Nat

namespace Holder

/-- What a holder asks of its registry. -/
inductive Request where
  /-- A ticket, which is kept under a name from now on. -/
  | issue (feedId : FeedId) (name : Nat)
  | install (feedId : FeedId) (name : Nat) (statistics : Tracked)
  | abandon (feedId : FeedId) (name : Nat)
  | block (feedId : FeedId) (block : Block)
  | gauges (feedId : FeedId) (gauges : Gauges)
  | remove (feedId : FeedId)
  | snapshot

/-- The feed id that a request is about. -/
def Request.feedId? : Request → Option FeedId
  | .issue f _ => some f
  | .install f _ _ => some f
  | .abandon f _ => some f
  | .block f _ => some f
  | .gauges f _ => some f
  | .remove f => some f
  | .snapshot => none

/-- Whether a request is about a feed id, or about all. -/
def Request.concerns (f : FeedId) (q : Request) : Bool :=
  q.feedId?.all (· == f)

/-- Nothing has been asked. -/
def start : Holder := ⟨.empty, .empty⟩

/-- The ticket of a feed id that is kept under a name. -/
def ticket? (h : Holder) (f : FeedId) (name : Nat) : Option Ticket :=
  (h.numbers.get? (f, name)).map fun n => ⟨f, n⟩

/-- The operation that a request comes to; none if it speaks of a ticket that
there is not. -/
def operation? (h : Holder) : Request → Option Operation
  | .issue f _ => some (.issue f)
  | .install f name s => (h.ticket? f name).map fun t => .install t s
  | .abandon f name => (h.ticket? f name).map fun t => .abandon t
  | .block f b => some (.block f b)
  | .gauges f g => some (.gauges f g)
  | .remove f => some (.remove f)
  | .snapshot => some .snapshot

/-- The tickets that are kept after a request. -/
def keep (h : Holder) : Request → Table (FeedId × Nat) Nat
  | .issue f name => h.numbers.insert (f, name) (h.registry.issue f).1.number
  | _ => h.numbers

/-- A request that has been made. -/
structure Turn where
  request : Request
  operation? : Option Operation
  answer? : Option Answer
  after : Holder

/-- Make a request. -/
def ask (h : Holder) (q : Request) : Turn where
  request := q
  operation? := h.operation? q
  answer? := (h.operation? q).map fun o => (h.registry.perform o).1
  after := ⟨match h.operation? q with
    | some o => (h.registry.perform o).2
    | none => h.registry, h.keep q⟩

/-- Requests that are made one after the other. -/
def transcript (h : Holder) : List Request → List Turn
  | [] => []
  | q :: rest => h.ask q :: transcript (h.ask q).after rest

/-- The holder after some requests. -/
def state (h : Holder) (requests : List Request) : Holder :=
  requests.foldl (fun h q => (h.ask q).after) h

theorem transcript_append (h : Holder) (a b : List Request) :
    h.transcript (a ++ b) = h.transcript a ++ (h.state a).transcript b := by
  induction a generalizing h with
  | nil => rfl
  | cons q rest ih => simp [transcript, state, ih]

theorem state_append (h : Holder) (a b : List Request) :
    h.state (a ++ b) = (h.state a).state b :=
  List.foldl_append

theorem registry_ask {h : Holder} {q : Request} {o : Operation} (comes : h.operation? q = some o) :
    (h.ask q).after.registry = (h.registry.perform o).2 := by
  simp only [ask, comes]

/-! ## 2. What is seen of a feed id -/

/-- What an answer says of a feed id: the number of a ticket says nothing, and
of a snapshot only the reading under the feed id. -/
def seen (f : FeedId) : Answer → Answer
  | .ticket t => .ticket ⟨t.feedId, 0⟩
  | .readings l => .readings (l.filter fun reading => decide (reading.feedId = f))
  | answer => answer

/-- What is seen of a feed id after a request. -/
structure View where
  request : Request
  answer? : Option Answer
  statistics : Option Tracked
  pending : Bool

/-- What a turn shows of a feed id. -/
def Turn.view (f : FeedId) (t : Turn) : View where
  request := t.request
  answer? := t.answer?.map (seen f)
  statistics := t.after.registry.get? f
  pending := t.after.registry.isPending f

end Holder

namespace Registry

/-- A snapshot has the reading of a feed id just if it is tracked. -/
theorem filter_snapshot_feedId (r : Registry) (f : FeedId) :
    r.snapshot.1.filter (fun reading => decide (reading.feedId = f)) =
      ((r.get? f).map fun s => (⟨f, s⟩ : Reading)).toList := by
  have nodup : (r.snapshot.1.filter fun reading => decide (reading.feedId = f)).Nodup :=
    (List.Nodup.of_map Reading.feedId r.nodup_snapshot).filter _
  cases found : r.get? f with
  | none =>
    refine List.filter_eq_nil_iff.2 ?_
    rintro ⟨g, s⟩ member same
    obtain rfl : g = f := of_decide_eq_true same
    rw [mem_snapshot_iff, found] at member
    cases member
  | some s =>
    refine List.perm_singleton.1 ((List.perm_ext_iff_of_nodup nodup (List.nodup_singleton _)).2 ?_)
    rintro ⟨g, s'⟩
    rw [List.mem_filter, List.mem_singleton, mem_snapshot_iff]
    constructor
    · rintro ⟨found', same⟩
      obtain rfl : g = f := of_decide_eq_true same
      rw [found] at found'
      cases found'
      rfl
    · rintro ⟨⟩
      exact ⟨found, decide_eq_true rfl⟩

/-- The feed id that an operation is about. -/
def Operation.feedId? : Operation → Option FeedId
  | .issue f => some f
  | .install t _ => some t.feedId
  | .abandon t => some t.feedId
  | .block f _ => some f
  | .gauges f _ => some f
  | .remove f => some f
  | .snapshot => none

/-- An operation about one feed id leaves the statistics of the others. -/
theorem get?_perform_of_ne (r : Registry) {o : Operation} {f g : FeedId}
    (place : o.feedId? = some g) (other : g ≠ f) : (r.perform o).2.get? f = r.get? f := by
  cases o with
  | issue f' => rfl
  | install t s =>
    cases place
    show (r.install t s).2.get? f = r.get? f
    by_cases current : r.isCurrent t = true
    · rw [get?_install current, if_neg other]
    · rw [install_of_not_current (Bool.eq_false_iff.2 current)]
  | abandon t => exact r.get?_abandon t f
  | block f' b =>
    cases place
    exact (r.get?_modify g f _).trans (if_neg other)
  | gauges f' b =>
    cases place
    exact (r.get?_modify g f _).trans (if_neg other)
  | remove f' =>
    cases place
    exact (r.get?_remove g f).trans (if_neg other)
  | snapshot => cases place

/-- It leaves their tickets as well. -/
theorem ticket?_perform_of_ne (r : Registry) {o : Operation} {f g : FeedId}
    (place : o.feedId? = some g) (other : g ≠ f) : (r.perform o).2.ticket? f = r.ticket? f := by
  cases o with
  | issue f' =>
    cases place
    exact (r.ticket?_issue g f).trans (if_neg other)
  | install t s =>
    cases place
    exact (r.ticket?_install_eq t s f).trans (if_neg fun both => other both.2)
  | abandon t =>
    cases place
    exact (r.ticket?_abandon t f).trans (if_neg fun both => other both.2)
  | block f' b => exact r.ticket?_modify f' f _
  | gauges f' b => exact r.ticket?_modify f' f _
  | remove f' =>
    cases place
    exact (r.ticket?_remove g f).trans (if_neg other)
  | snapshot => cases place

theorem issued_le_perform (r : Registry) (o : Operation) : r.issued ≤ (r.perform o).2.issued := by
  rw [issued_perform]
  exact Nat.le_add_right _ _

end Registry

namespace Holder

/-! ## 3. Runs that are alike -/

/-- Whether two tickets of a feed id stand alike in two registries: neither is
still to come, and both or neither are current. -/
structure SameStanding (f : FeedId) (r r' : Registry) (n n' : Nat) : Prop where
  issued : n ≤ r.issued
  issued' : n' ≤ r'.issued
  current : r.ticket? f = some n ↔ r'.ticket? f = some n'

/-- Whether two holders are alike in what they say of a feed id. -/
structure Alike (f : FeedId) (h h' : Holder) : Prop where
  statistics : h.registry.get? f = h'.registry.get? f
  pending : h.registry.isPending f = h'.registry.isPending f
  kept : ∀ name, Option.Rel (SameStanding f h.registry h'.registry)
    (h.numbers.get? (f, name)) (h'.numbers.get? (f, name))

theorem Alike.start (f : FeedId) : Alike f start start where
  statistics := rfl
  pending := rfl
  kept := fun _ => .none

theorem rel_imp {R S : Nat → Nat → Prop} (imp : ∀ n n', R n n' → S n n') {x x' : Option Nat} :
    Option.Rel R x x' → Option.Rel S x x'
  | .none => .none
  | .some related => .some (imp _ _ related)

theorem feedId?_of_operation? {h : Holder} {q : Request} {o : Operation}
    (found : h.operation? q = some o) : o.feedId? = q.feedId? := by
  cases q with
  | install f name s =>
    obtain ⟨t, kept, rfl⟩ := Option.map_eq_some_iff.1 found
    obtain ⟨n, -, rfl⟩ := Option.map_eq_some_iff.1 kept
    rfl
  | abandon f name =>
    obtain ⟨t, kept, rfl⟩ := Option.map_eq_some_iff.1 found
    obtain ⟨n, -, rfl⟩ := Option.map_eq_some_iff.1 kept
    rfl
  | _ =>
    cases found
    rfl

/-- Whether a holder keeps the tickets of a feed id that another one keeps,
and has been issued no fewer. -/
structure Grown (f : FeedId) (h g : Holder) : Prop where
  kept : ∀ name, g.numbers.get? (f, name) = h.numbers.get? (f, name)
  issued : h.registry.issued ≤ g.registry.issued

theorem Grown.refl (f : FeedId) (h : Holder) : Grown f h h where
  kept := fun _ => rfl
  issued := Nat.le_refl _

theorem issued_le_ask (h : Holder) (q : Request) :
    h.registry.issued ≤ (h.ask q).after.registry.issued := by
  unfold ask
  cases h.operation? q with
  | none => exact Nat.le_refl _
  | some o => exact h.registry.issued_le_perform o

/-- Only the request for a ticket changes what is kept. -/
theorem grown_ask (f : FeedId) (h : Holder) {q : Request} (other : ∀ name, q ≠ .issue f name) :
    Grown f h (h.ask q).after where
  issued := h.issued_le_ask q
  kept := by
    intro name
    show (h.keep q).get? (f, name) = _
    cases q with
    | issue g name' =>
      refine Table.get?_insert_of_ne _ _ ?_
      rintro ⟨⟩
      exact other name rfl
    | _ => rfl

namespace Alike

variable {f : FeedId} {h h' g g' : Holder}

/-- Holders stay alike when the feed id loses its current ticket in both or in
neither. -/
theorem moved (a : Alike f h h') (grown : Grown f h g) (grown' : Grown f h' g')
    (statistics : g.registry.get? f = g'.registry.get? f)
    (tickets : (g.registry.ticket? f = none ∧ g'.registry.ticket? f = none) ∨
      (g.registry.ticket? f = h.registry.ticket? f ∧
        g'.registry.ticket? f = h'.registry.ticket? f)) : Alike f g g' where
  statistics := statistics
  pending := by
    rcases tickets with ⟨none, none'⟩ | ⟨same, same'⟩
    · rw [Registry.isPending_eq, Registry.isPending_eq, none, none']
    · rw [Registry.isPending_eq, Registry.isPending_eq, same, same']
      exact a.pending
  kept := by
    intro name
    rw [grown.kept, grown'.kept]
    refine rel_imp ?_ (a.kept name)
    intro n n' standing
    refine ⟨Nat.le_trans standing.issued grown.issued,
      Nat.le_trans standing.issued' grown'.issued, ?_⟩
    rcases tickets with ⟨none, none'⟩ | ⟨same, same'⟩
    · rw [none, none']
      simp
    · rw [same, same']
      exact standing.current

/-- What is asked for another feed id in one of two runs leaves them alike. -/
theorem skip (a : Alike f h h') {q : Request} (other : q.concerns f = false) :
    Alike f (h.ask q).after h' := by
  obtain ⟨g, place, ne⟩ : ∃ g, q.feedId? = some g ∧ g ≠ f := by
    unfold Request.concerns at other
    cases place : q.feedId? with
    | none => simp [place] at other
    | some g => exact ⟨g, rfl, by simpa [place] using other⟩
  have grown : Grown f h (h.ask q).after := by
    refine grown_ask f h ?_
    rintro name rfl
    cases place
    exact ne rfl
  have same : (h.ask q).after.registry.get? f = h.registry.get? f ∧
      (h.ask q).after.registry.ticket? f = h.registry.ticket? f := by
    unfold ask
    cases found : h.operation? q with
    | none => exact ⟨rfl, rfl⟩
    | some o =>
      have about := (feedId?_of_operation? found).trans place
      exact ⟨Registry.get?_perform_of_ne _ about ne, Registry.ticket?_perform_of_ne _ about ne⟩
  exact a.moved grown (Grown.refl f h') (same.1.trans a.statistics) (Or.inr ⟨same.2, rfl⟩)

/-- A request for a ticket leaves two runs alike: the new tickets are current,
and none that was kept is. -/
theorem issue (a : Alike f h h') (name : Nat) :
    Alike f (h.ask (.issue f name)).after (h'.ask (.issue f name)).after where
  statistics := a.statistics
  pending := by
    show ((h.registry.issue f).2.ticket? f).isSome = ((h'.registry.issue f).2.ticket? f).isSome
    rw [Registry.ticket?_issue, Registry.ticket?_issue, if_pos rfl, if_pos rfl]
    rfl
  kept := by
    intro name'
    show Option.Rel (SameStanding f (h.registry.issue f).2 (h'.registry.issue f).2)
      ((h.numbers.insert (f, name) (h.registry.issued + 1)).get? (f, name'))
      ((h'.numbers.insert (f, name) (h'.registry.issued + 1)).get? (f, name'))
    rw [Table.get?_insert, Table.get?_insert]
    have current := h.registry.ticket?_issue f f
    have current' := h'.registry.ticket?_issue f f
    rw [if_pos rfl] at current current'
    by_cases same : (f, name) = (f, name')
    · rw [if_pos same, if_pos same]
      exact .some ⟨Nat.le_refl _, Nat.le_refl _, by simp [current, current']⟩
    · rw [if_neg same, if_neg same]
      refine rel_imp ?_ (a.kept name')
      intro n n' standing
      have old := standing.issued
      have old' := standing.issued'
      refine ⟨Nat.le_succ_of_le old, Nat.le_succ_of_le old', ?_⟩
      rw [current, current', Option.some_inj, Option.some_inj]
      omega

/-- The tickets that are kept under one name are both or neither current. -/
theorem isCurrent (a : Alike f h h') (name : Nat) :
    (h.ticket? f name = none ∧ h'.ticket? f name = none) ∨
      ∃ n n', h.ticket? f name = some ⟨f, n⟩ ∧ h'.ticket? f name = some ⟨f, n'⟩ ∧
        h.registry.isCurrent ⟨f, n⟩ = h'.registry.isCurrent ⟨f, n'⟩ := by
  have kept := a.kept name
  unfold ticket?
  generalize h.numbers.get? (f, name) = x at kept ⊢
  generalize h'.numbers.get? (f, name) = x' at kept ⊢
  cases kept with
  | none => exact Or.inl ⟨rfl, rfl⟩
  | @some n n' standing =>
    refine Or.inr ⟨n, n', rfl, rfl, ?_⟩
    rw [Bool.eq_iff_iff, Registry.isCurrent_iff, Registry.isCurrent_iff]
    exact standing.current

end Alike

/-! ## 4. One request in two runs -/

/-- What two operations about one feed id have in common: what is seen of their
answers, the statistics they leave, and whether they leave a current ticket. -/
structure SameEffect (f : FeedId) (r r' : Registry) (o o' : Operation) : Prop where
  seen : seen f (r.perform o).1 = seen f (r'.perform o').1
  statistics : (r.perform o).2.get? f = (r'.perform o').2.get? f
  tickets : ((r.perform o).2.ticket? f = none ∧ (r'.perform o').2.ticket? f = none) ∨
    ((r.perform o).2.ticket? f = r.ticket? f ∧ (r'.perform o').2.ticket? f = r'.ticket? f)

namespace SameEffect

variable {f : FeedId} {r r' : Registry} {n n' : Nat}

theorem install (statistics : r.get? f = r'.get? f)
    (current : r.isCurrent ⟨f, n⟩ = r'.isCurrent ⟨f, n'⟩) (s : Tracked) :
    SameEffect f r r' (.install ⟨f, n⟩ s) (.install ⟨f, n'⟩ s) := by
  have fst : (r.install ⟨f, n⟩ s).1 = (r'.install ⟨f, n'⟩ s).1 := by
    rw [Registry.install_fst, Registry.install_fst, current]
  cases known : r.isCurrent ⟨f, n⟩ with
  | true =>
    have known' := current.symm.trans known
    refine ⟨congrArg Answer.done fst, ?_, Or.inl ⟨?_, ?_⟩⟩
    · show (r.install ⟨f, n⟩ s).2.get? f = (r'.install ⟨f, n'⟩ s).2.get? f
      rw [Registry.get?_install known, Registry.get?_install known', if_pos rfl, if_pos rfl]
    · exact (Registry.ticket?_install known s f).trans (if_pos rfl)
    · exact (Registry.ticket?_install known' s f).trans (if_pos rfl)
  | false =>
    have same := Registry.install_of_not_current known s
    have same' := Registry.install_of_not_current (current.symm.trans known) s
    refine ⟨congrArg Answer.done fst, ?_, Or.inr ⟨?_, ?_⟩⟩
    · show (r.install ⟨f, n⟩ s).2.get? f = (r'.install ⟨f, n'⟩ s).2.get? f
      rw [same, same', statistics]
    · exact congrArg (Registry.ticket? · f) same
    · exact congrArg (Registry.ticket? · f) same'

theorem abandon (statistics : r.get? f = r'.get? f)
    (current : r.isCurrent ⟨f, n⟩ = r'.isCurrent ⟨f, n'⟩) :
    SameEffect f r r' (.abandon ⟨f, n⟩) (.abandon ⟨f, n'⟩) where
  seen := rfl
  statistics := by
    show (r.abandon ⟨f, n⟩).get? f = (r'.abandon ⟨f, n'⟩).get? f
    rw [Registry.get?_abandon, Registry.get?_abandon, statistics]
  tickets := by
    show ((r.abandon ⟨f, n⟩).ticket? f = none ∧ (r'.abandon ⟨f, n'⟩).ticket? f = none) ∨ _
    cases known : r.isCurrent ⟨f, n⟩ with
    | true =>
      have known' := current.symm.trans known
      refine Or.inl ⟨?_, ?_⟩
      · rw [Registry.ticket?_abandon, if_pos ⟨known, rfl⟩]
      · rw [Registry.ticket?_abandon, if_pos ⟨known', rfl⟩]
    | false =>
      have same := Registry.abandon_of_not_current known
      have same' := Registry.abandon_of_not_current (current.symm.trans known)
      exact Or.inr ⟨congrArg (Registry.ticket? · f) same, congrArg (Registry.ticket? · f) same'⟩

theorem modify (statistics : r.get? f = r'.get? f) (change : Tracked → Tracked)
    {o o' : Operation}
    (ho : r.perform o = (.done (r.modify f change).1, (r.modify f change).2))
    (ho' : r'.perform o' = (.done (r'.modify f change).1, (r'.modify f change).2)) :
    SameEffect f r r' o o' where
  seen := by
    rw [ho, ho', Registry.modify_fst, Registry.modify_fst, statistics]
  statistics := by
    rw [ho, ho', Registry.get?_modify, Registry.get?_modify, statistics]
  tickets := by
    rw [ho, ho', Registry.ticket?_modify, Registry.ticket?_modify]
    exact Or.inr ⟨rfl, rfl⟩

theorem remove (statistics : r.get? f = r'.get? f) :
    SameEffect f r r' (.remove f) (.remove f) where
  seen := congrArg Answer.previous statistics
  statistics := by
    show (r.remove f).2.get? f = (r'.remove f).2.get? f
    rw [Registry.get?_remove, Registry.get?_remove, if_pos rfl, if_pos rfl]
  tickets := by
    refine Or.inl ⟨?_, ?_⟩
    · exact (r.ticket?_remove f f).trans (if_pos rfl)
    · exact (r'.ticket?_remove f f).trans (if_pos rfl)

theorem snapshot (statistics : r.get? f = r'.get? f) :
    SameEffect f r r' .snapshot .snapshot where
  seen := by
    refine congrArg Answer.readings ?_
    rw [Registry.filter_snapshot_feedId, Registry.filter_snapshot_feedId, statistics]
  statistics := by
    show r.snapshot.2.get? f = r'.snapshot.2.get? f
    rw [Registry.get?_snapshot, Registry.get?_snapshot, statistics]
  tickets := Or.inr ⟨rfl, rfl⟩

end SameEffect

namespace Alike

variable {f : FeedId} {h h' : Holder}

/-- What a request other than for a ticket comes to in two runs. -/
theorem operation? (a : Alike f h h') {q : Request} (concerns : q.concerns f = true)
    (other : ∀ name, q ≠ .issue f name) :
    (h.operation? q = none ∧ h'.operation? q = none) ∨
      ∃ o o', h.operation? q = some o ∧ h'.operation? q = some o' ∧
        SameEffect f h.registry h'.registry o o' := by
  have own : ∀ g, q.feedId? = some g → g = f := by
    intro g place
    simpa [Request.concerns, place] using concerns
  cases q with
  | issue g name =>
    obtain rfl := own g rfl
    exact absurd rfl (other name)
  | install g name s =>
    obtain rfl := own g rfl
    rcases a.isCurrent name with ⟨none, none'⟩ | ⟨n, n', some, some', current⟩
    · exact Or.inl ⟨by simp [Holder.operation?, none], by simp [Holder.operation?, none']⟩
    · refine Or.inr ⟨.install ⟨g, n⟩ s, .install ⟨g, n'⟩ s, ?_, ?_, .install a.statistics current s⟩
      · simp [Holder.operation?, some]
      · simp [Holder.operation?, some']
  | abandon g name =>
    obtain rfl := own g rfl
    rcases a.isCurrent name with ⟨none, none'⟩ | ⟨n, n', some, some', current⟩
    · exact Or.inl ⟨by simp [Holder.operation?, none], by simp [Holder.operation?, none']⟩
    · refine Or.inr ⟨.abandon ⟨g, n⟩, .abandon ⟨g, n'⟩, ?_, ?_, .abandon a.statistics current⟩
      · simp [Holder.operation?, some]
      · simp [Holder.operation?, some']
  | block g b =>
    obtain rfl := own g rfl
    exact Or.inr ⟨_, _, rfl, rfl, .modify a.statistics (fun s => s.record b) rfl rfl⟩
  | gauges g b =>
    obtain rfl := own g rfl
    exact Or.inr ⟨_, _, rfl, rfl, .modify a.statistics (fun s => s.withGauges b) rfl rfl⟩
  | remove g =>
    obtain rfl := own g rfl
    exact Or.inr ⟨_, _, rfl, rfl, .remove a.statistics⟩
  | snapshot => exact Or.inr ⟨_, _, rfl, rfl, .snapshot a.statistics⟩

/-- A request that concerns a feed id has one answer in two runs, but for the
numbers of tickets, and leaves them alike. -/
theorem ask (a : Alike f h h') {q : Request} (concerns : q.concerns f = true) :
    (h.ask q).answer?.map (seen f) = (h'.ask q).answer?.map (seen f) ∧
      Alike f (h.ask q).after (h'.ask q).after := by
  by_cases ticket : ∃ name, q = .issue f name
  · obtain ⟨name, rfl⟩ := ticket
    exact ⟨rfl, a.issue name⟩
  · have other : ∀ name, q ≠ .issue f name := fun name same => ticket ⟨name, same⟩
    have grown := grown_ask f h other
    have grown' := grown_ask f h' other
    rcases a.operation? concerns other with ⟨none, none'⟩ | ⟨o, o', some, some', same⟩
    · refine ⟨by simp [Holder.ask, none, none'], a.moved grown grown' ?_ (Or.inr ⟨?_, ?_⟩)⟩
      · simp only [Holder.ask, none, none', a.statistics]
      · simp only [Holder.ask, none]
      · simp only [Holder.ask, none']
    · refine ⟨?_, a.moved grown grown' ?_ ?_⟩
      · simp only [Holder.ask, some, some', Option.map_some, same.seen]
      · simpa only [Holder.ask, some, some'] using same.statistics
      · simpa only [Holder.ask, some, some'] using same.tickets

theorem view (a : Alike f h h') {q : Request} (concerns : q.concerns f = true) :
    (h.ask q).view f = (h'.ask q).view f := by
  obtain ⟨answer, after⟩ := a.ask concerns
  simp only [Turn.view, answer, after.statistics, after.pending]
  rfl

/-- What is seen of a feed id in two runs, one of which lacks the requests that
do not concern it. -/
theorem transcript (a : Alike f h h') (requests : List Request) :
    ((h.transcript requests).filter fun t => t.request.concerns f).map (Turn.view f) =
      (h'.transcript (requests.filter (Request.concerns f))).map (Turn.view f) := by
  induction requests generalizing h h' with
  | nil => rfl
  | cons q rest ih =>
    have same : (h.ask q).request = q := rfl
    cases concerns : q.concerns f with
    | true =>
      rw [Holder.transcript, List.filter_cons_of_pos (by rw [same, concerns]),
        List.filter_cons_of_pos concerns, Holder.transcript, List.map_cons, List.map_cons,
        a.view concerns, ih (a.ask concerns).2]
    | false =>
      have left_out : ¬ q.concerns f = true := by
        rw [concerns]
        exact Bool.false_ne_true
      rw [Holder.transcript, List.filter_cons_of_neg (by rwa [same]),
        List.filter_cons_of_neg left_out, ih (a.skip concerns)]

end Alike

end Holder

/-! ## 5. Requests and operations -/

namespace Registry

/-- The ticket that an operation uses. -/
def Operation.ticket? : Operation → Option Ticket
  | .install t _ => some t
  | .abandon t => some t
  | _ => none

/-- Whether every ticket that is used has been issued before. -/
def Honest (operations : List Operation) : Prop :=
  ∀ before o later, operations = before ++ o :: later →
    ∀ t, o.ticket? = some t → t ∈ tickets (empty.transcript before)

theorem Honest.of_concat {operations : List Operation} {o : Operation}
    (honest : Honest (operations ++ [o])) : Honest operations := by
  intro before o' later place
  refine honest before o' (later ++ [o]) ?_
  rw [place, List.append_assoc, List.cons_append]

end Registry

namespace Holder

/-- What a turn says of the registry. -/
def Turn.told? (t : Turn) : Option Registry.Turn := do
  return ⟨← t.operation?, ← t.answer?⟩

/-- What a holder is told is what the registry answers. -/
theorem told_transcript (h : Holder) (requests : List Request) :
    (h.transcript requests).filterMap Turn.told? =
      h.registry.transcript ((h.transcript requests).filterMap Turn.operation?) := by
  induction requests generalizing h with
  | nil => rfl
  | cons q rest ih =>
    rw [transcript, List.filterMap_cons, List.filterMap_cons, ih]
    cases found : h.operation? q <;> simp [Turn.told?, ask, found, Registry.transcript]

/-- A holder has led its registry where the operations of its requests lead. -/
theorem registry_state (h : Holder) (requests : List Request) :
    (h.state requests).registry =
      h.registry.after ((h.transcript requests).filterMap Turn.operation?) := by
  induction requests generalizing h with
  | nil => rfl
  | cons q rest ih =>
    rw [transcript, List.filterMap_cons]
    refine (ih (h.ask q).after).trans ?_
    cases found : h.operation? q <;> simp [ask, found, Registry.after]

/-- What a holder has been issued fits words, as long as there are few enough. -/
theorem wordsSuffice_state (requests : List Request) :
    (start.state requests).registry.WordsSuffice
      (Registry.tickets ((start.transcript requests).filterMap Turn.told?)) := by
  rw [registry_state, told_transcript]
  exact Registry.wordsSuffice_transcript _

/-- The request that comes to an operation, where each ticket is kept under its
number. -/
def request (r : Registry) : Operation → Request
  | .issue f => .issue f (r.issued + 1)
  | .install t s => .install t.feedId t.number s
  | .abandon t => .abandon t.feedId t.number
  | .block f b => .block f b
  | .gauges f g => .gauges f g
  | .remove f => .remove f
  | .snapshot => .snapshot

/-- Whether a ticket is kept under its number. -/
def Keeps (h : Holder) (t : Ticket) : Prop :=
  h.numbers.get? (t.feedId, t.number) = some t.number

theorem operation?_request {h : Holder} {o : Operation}
    (keeps : ∀ t, o.ticket? = some t → h.Keeps t) :
    h.operation? (request h.registry o) = some o := by
  cases o with
  | install t s =>
    have kept : h.numbers.get? (t.feedId, t.number) = some t.number := keeps t rfl
    simp [request, operation?, ticket?, kept]
  | abandon t =>
    have kept : h.numbers.get? (t.feedId, t.number) = some t.number := keeps t rfl
    simp [request, operation?, ticket?, kept]
  | _ => rfl

/-- The ticket that an operation issues is kept, and all that were kept still
are. -/
theorem keeps_ask_request (h : Holder) (o : Operation) (t : Ticket)
    (kept : h.Keeps t ∨ Registry.Turn.issued? ⟨o, (h.registry.perform o).1⟩ = some t) :
    (h.ask (request h.registry o)).after.Keeps t := by
  rw [Registry.issued?_perform] at kept
  cases o with
  | issue f =>
    show (h.numbers.insert (f, h.registry.issued + 1) (h.registry.issued + 1)).get?
      (t.feedId, t.number) = some t.number
    rw [Table.get?_insert]
    split
    · next same => rw [(Prod.mk.inj same).2]
    · next other =>
      rcases kept with old | new
      · exact old
      · cases new
        exact absurd rfl other
  | _ =>
    rcases kept with old | new
    · exact old
    · cases new

/-- Every sequence of operations that uses only tickets issued before is what
some requests come to. -/
theorem exists_requests (operations : List Operation) (honest : Registry.Honest operations) :
    ∃ requests, (start.transcript requests).map Turn.operation? = operations.map some ∧
      (start.state requests).registry = Registry.empty.after operations ∧
      ∀ t ∈ Registry.tickets (Registry.empty.transcript operations),
        (start.state requests).Keeps t := by
  induction operations using List.reverseRecOn with
  | nil => exact ⟨[], rfl, rfl, by simp [Registry.transcript, Registry.tickets]⟩
  | append_singleton operations o ih =>
    obtain ⟨requests, made, same, keeps⟩ := ih honest.of_concat
    have used : ∀ t, o.ticket? = some t → (start.state requests).Keeps t :=
      fun t use => keeps t (honest operations o [] rfl t use)
    have comes := operation?_request used
    refine ⟨requests ++ [request (start.state requests).registry o], ?_, ?_, ?_⟩
    · rw [transcript_append, List.map_append, List.map_append, made]
      simp [transcript, ask, comes]
    · rw [state_append, Registry.after_append, ← same]
      exact registry_ask comes
    · intro t issued
      rw [Registry.transcript_append, Registry.transcript, Registry.transcript,
        Registry.tickets_concat, List.mem_append, Option.mem_toList, ← same] at issued
      rw [state_append]
      refine keeps_ask_request _ o t ?_
      rcases issued with old | new
      · exact Or.inl (keeps t old)
      · exact Or.inr new

/-! ## 6. Separation -/

/-- Leave out of any run on a registry that began empty everything that is asked
for other feed ids.  Then what is seen of this feed id stays as it was: after
each of the requests that are left, the answer but for the number of a ticket,
the reading in a snapshot, the statistics, and whether the feed id is pending.
The runs are all there are: requests are operations of the registry, and the
operations of any run are requests.  A registry that counts in words of 64 bits
does the same, as long as it has issued fewer than `2 ^ 64` tickets. -/
theorem feed_ids_apart :
    (∀ (f : FeedId) (requests : List Request),
      ((start.transcript requests).filter fun t => t.request.concerns f).map (Turn.view f) =
        (start.transcript (requests.filter (Request.concerns f))).map (Turn.view f)) ∧
      (∀ requests : List Request, (start.transcript requests).filterMap Turn.told? =
        Registry.empty.transcript ((start.transcript requests).filterMap Turn.operation?)) ∧
      (∀ requests : List Request, (start.state requests).registry.WordsSuffice
        (Registry.tickets ((start.transcript requests).filterMap Turn.told?))) ∧
      ∀ operations : List Operation, Registry.Honest operations →
        ∃ requests, (start.transcript requests).map Turn.operation? = operations.map some := by
  refine ⟨?_, start.told_transcript, wordsSuffice_state, ?_⟩
  · intro f requests
    exact (Alike.start f).transcript requests
  · intro operations honest
    obtain ⟨requests, made, -⟩ := exists_requests operations honest
    exact ⟨requests, made⟩

/-- The number of a ticket does show what is asked for other feed ids. -/
example :
    (start.transcript [.issue 8 0, .issue 7 0]).map Turn.answer? =
        [some (.ticket ⟨8, 1⟩), some (.ticket ⟨7, 2⟩)] ∧
      (start.transcript ([.issue 8 0, .issue 7 0].filter (Request.concerns 7))).map Turn.answer? =
        [some (.ticket ⟨7, 1⟩)] := by
  decide

end Holder

end NodeWatch
