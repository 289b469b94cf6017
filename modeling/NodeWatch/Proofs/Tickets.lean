/-
NodeWatch.Proofs.Tickets — which tickets of a registry are current.

Tickets are values: whoever has one can use it as often as it likes, in any
order, between any other operations.  A transcript lists the operations on a
registry with their answers.  Read on its own it says which tickets were
issued, and since when nothing has been done that ends them: a ticket ends
when it is used, and when its feed id gets another ticket or is removed
(`Operation.Ends`).  A ticket that was issued and has not ended is current
(`Current`).

Main statement: whatever the operations are, no ticket is issued twice, a node
is installed just when its ticket is current, a ticket that is not current
changes nothing, and a feed id is pending just when it has a current ticket
(`tickets_hold`).  All feed ids share one counter, and that alone keeps their
tickets apart: it is never taken back (`numbered_transcript`).

The counter is a number here, where a registry that runs has a word of 64 bits.
Until `2 ^ 64` tickets have been issued the two count alike
(`Registry.WordsSuffice`), and the statements about runs say so of their tickets.
-/
import Mathlib.Data.List.Induction
import Mathlib.Data.List.Nodup
import NodeWatch.Proofs.Registry

namespace NodeWatch

namespace Registry

/-! ## 1. Transcripts -/

/-- What may be asked of a registry. -/
inductive Operation where
  | issue (feedId : FeedId)
  | install (ticket : Ticket) (statistics : Tracked)
  | abandon (ticket : Ticket)
  | block (feedId : FeedId) (block : Block)
  | gauges (feedId : FeedId) (gauges : Gauges)
  | remove (feedId : FeedId)
  | snapshot

/-- What a registry answers. -/
inductive Answer where
  | ticket (ticket : Ticket)
  | done (whether : Bool)
  | nothing
  | previous (statistics : Option Tracked)
  | readings (readings : List Reading)
  deriving DecidableEq

/-- Carry an operation out. -/
def perform (r : Registry) : Operation → Answer × Registry
  | .issue f => (.ticket (r.issue f).1, (r.issue f).2)
  | .install t s => (.done (r.install t s).1, (r.install t s).2)
  | .abandon t => (.nothing, r.abandon t)
  | .block f b => (.done (r.recordBlock f b).1, (r.recordBlock f b).2)
  | .gauges f g => (.done (r.setGauges f g).1, (r.setGauges f g).2)
  | .remove f => (.previous (r.remove f).1, (r.remove f).2)
  | .snapshot => (.readings r.snapshot.1, r.snapshot.2)

/-- An operation and its answer. -/
structure Turn where
  operation : Operation
  answer : Answer

/-- Operations that are carried out one after the other. -/
def transcript (r : Registry) : List Operation → List Turn
  | [] => []
  | o :: rest => ⟨o, (r.perform o).1⟩ :: transcript (r.perform o).2 rest

/-- The registry after some operations. -/
def after (r : Registry) (operations : List Operation) : Registry :=
  operations.foldl (fun r o => (r.perform o).2) r

theorem after_append (r : Registry) (a b : List Operation) :
    r.after (a ++ b) = (r.after a).after b :=
  List.foldl_append

theorem transcript_append (r : Registry) (a b : List Operation) :
    r.transcript (a ++ b) = r.transcript a ++ (r.after a).transcript b := by
  induction a generalizing r with
  | nil => rfl
  | cons o rest ih => simp [transcript, after, ih]

/-! ## 2. What a transcript says of tickets -/

/-- The ticket that a turn has issued. -/
def Turn.issued? (t : Turn) : Option Ticket :=
  match t.answer with
  | .ticket ticket => some ticket
  | _ => none

/-- The tickets that have been issued. -/
def tickets (l : List Turn) : List Ticket :=
  l.filterMap Turn.issued?

/-- Whether a ticket ends with an operation, if it has not ended before. -/
def Operation.Ends (t : Ticket) : Operation → Prop
  | .issue f => f = t.feedId
  | .install u _ => u = t
  | .abandon u => u = t
  | .remove f => f = t.feedId
  | _ => False

/-- Whether a ticket has been issued and has not ended since. -/
def Current (l : List Turn) (t : Ticket) : Prop :=
  ∃ before turn later, l = before ++ turn :: later ∧ turn.issued? = some t ∧
    ∀ u ∈ later, ¬ u.operation.Ends t

theorem tickets_concat (l : List Turn) (t : Turn) :
    tickets (l ++ [t]) = tickets l ++ t.issued?.toList := by
  rw [tickets, List.filterMap_append]
  cases h : t.issued? <;> simp [tickets, h]

theorem not_current_nil (t : Ticket) : ¬ Current [] t := by
  rintro ⟨before, turn, later, place, -⟩
  simp at place

/-- A ticket is current after another turn if that turn issues it, or if it
was current and does not end with that turn. -/
theorem current_concat (l : List Turn) (u : Turn) (t : Ticket) :
    Current (l ++ [u]) t ↔ u.issued? = some t ∨ (Current l t ∧ ¬ u.operation.Ends t) := by
  constructor
  · rintro ⟨before, turn, later, place, issued, lasts⟩
    rcases List.eq_nil_or_concat later with rfl | ⟨later, last, rfl⟩
    · obtain ⟨-, same⟩ := List.append_inj' place rfl
      cases same
      exact Or.inl issued
    · rw [List.concat_eq_append] at place lasts
      rw [← List.cons_append, ← List.append_assoc] at place
      obtain ⟨rfl, same⟩ := List.append_inj' place rfl
      cases same
      have rest : ∀ v ∈ later, ¬ v.operation.Ends t :=
        fun v member => lasts v (List.mem_append_left _ member)
      exact Or.inr ⟨⟨before, turn, later, rfl, issued, rest⟩, lasts u (by simp)⟩
  · rintro (issued | ⟨⟨before, turn, later, rfl, issued, lasts⟩, last⟩)
    · exact ⟨l, u, [], rfl, issued, by simp⟩
    · refine ⟨before, turn, later ++ [u], by simp, issued, ?_⟩
      intro v member
      rcases List.mem_append.1 member with old | new
      · exact lasts v old
      · rw [List.mem_singleton.1 new]
        exact last

/-! ## 3. One operation -/

/-- The ticket that an operation issues. -/
theorem issued?_perform (r : Registry) (o : Operation) :
    Turn.issued? ⟨o, (r.perform o).1⟩ =
      match o with
      | .issue f => some ⟨f, r.issued + 1⟩
      | _ => none := by
  cases o <;> rfl

/-- Only an issue moves the counter. -/
theorem issued_perform (r : Registry) (o : Operation) :
    (r.perform o).2.issued = r.issued + (Turn.issued? ⟨o, (r.perform o).1⟩).toList.length := by
  rw [issued?_perform]
  cases o with
  | issue f => rfl
  | install t s => exact r.issued_install t s
  | abandon t => exact r.issued_abandon t
  | block f b => exact r.issued_modify f _
  | gauges f g => exact r.issued_modify f _
  | remove f => rfl
  | snapshot => rfl

/-- How a registry stands after a transcript: it has counted the tickets, and
it keeps the number of the current one of each feed id. -/
structure Stands (l : List Turn) (r : Registry) : Prop where
  numbered : (tickets l).map Ticket.number = List.range' 1 r.issued
  current : ∀ t : Ticket, r.ticket? t.feedId = some t.number ↔ Current l t

namespace Stands

variable {l : List Turn} {r : Registry}

theorem isCurrent_iff (h : Stands l r) {t : Ticket} : r.isCurrent t = true ↔ Current l t := by
  rw [Registry.isCurrent_iff, h.current]

/-- A feed id has one current ticket at most. -/
theorem eq_of_current (h : Stands l r) {t u : Ticket} (ht : Current l t) (hu : Current l u)
    (same : t.feedId = u.feedId) : t = u :=
  eq_of_isCurrent (h.isCurrent_iff.2 ht) (h.isCurrent_iff.2 hu) same

/-- A ticket that is used ends, and no other one does. -/
theorem used (h : Stands l r) (u t : Ticket) :
    (if r.isCurrent u = true ∧ u.feedId = t.feedId then none else r.ticket? t.feedId) =
      some t.number ↔ Current l t ∧ ¬ u = t := by
  by_cases current : r.isCurrent u = true
  · by_cases own : u.feedId = t.feedId
    · have only : Current l t → u = t :=
        fun ht => h.eq_of_current (h.isCurrent_iff.1 current) ht own
      simpa [current, own] using only
    · have other : u ≠ t := fun same => own (congrArg Ticket.feedId same)
      simp [own, other, h.current]
  · have other : Current l t → u ≠ t := fun ht same => current (h.isCurrent_iff.2 (same ▸ ht))
    simp only [current, Bool.false_eq_true, false_and, if_false, h.current]
    exact ⟨fun ht => ⟨ht, other ht⟩, And.left⟩

theorem step_numbered (h : Stands l r) (o : Operation) :
    (tickets (l ++ [⟨o, (r.perform o).1⟩])).map Ticket.number =
      List.range' 1 (r.perform o).2.issued := by
  rw [tickets_concat, issued_perform, issued?_perform, List.map_append, h.numbered]
  cases o with
  | issue f => simp [List.range'_concat, Nat.add_comm]
  | _ => simp

theorem step_current (h : Stands l r) (o : Operation) (t : Ticket) :
    (r.perform o).2.ticket? t.feedId = some t.number ↔
      Current (l ++ [⟨o, (r.perform o).1⟩]) t := by
  rw [current_concat, issued?_perform]
  -- What an operation makes of the current ticket is known; what it ends is compared with that.
  cases o with
  | issue f =>
    have after := r.ticket?_issue f t.feedId
    simp only [perform, after, Operation.Ends, ← h.current]
    by_cases own : f = t.feedId
    · subst own
      cases t
      simp [eq_comm]
    · have other : (⟨f, r.issued + 1⟩ : Ticket) ≠ t := fun same => own (congrArg Ticket.feedId same)
      simp [own, other]
  | install u s =>
    simp only [perform, Operation.Ends, reduceCtorEq, false_or, ticket?_install_eq]
    exact h.used u t
  | abandon u =>
    simp only [perform, Operation.Ends, reduceCtorEq, false_or, ticket?_abandon]
    exact h.used u t
  | remove f =>
    simp only [perform, Operation.Ends, reduceCtorEq, false_or, ticket?_remove]
    by_cases own : f = t.feedId
    · simp [own]
    · simp [own, h.current]
  | block f b =>
    show (r.recordBlock f b).2.ticket? t.feedId = _ ↔ _
    simp [recordBlock, Operation.Ends, h.current]
  | gauges f g =>
    show (r.setGauges f g).2.ticket? t.feedId = _ ↔ _
    simp [setGauges, Operation.Ends, h.current]
  | snapshot => simp [perform, Operation.Ends, h.current]

end Stands

theorem stands_transcript (operations : List Operation) :
    Stands (empty.transcript operations) (empty.after operations) := by
  induction operations using List.reverseRecOn with
  | nil =>
    refine ⟨rfl, fun t => ?_⟩
    simpa [transcript, after] using not_current_nil t
  | append_singleton operations o ih =>
    rw [transcript_append, after_append]
    exact ⟨ih.step_numbered o, ih.step_current o⟩

/-- The tickets of a registry are numbered from one. -/
theorem numbered_transcript (operations : List Operation) :
    (tickets (empty.transcript operations)).map Ticket.number =
      List.range' 1 (empty.after operations).issued :=
  (stands_transcript operations).numbered

theorem wordsSuffice_transcript (operations : List Operation) :
    (empty.after operations).WordsSuffice (tickets (empty.transcript operations)) := by
  have numbered := numbered_transcript operations
  refine wordsSuffice_of_le ?_ fun t member => ?_
  · simpa using (congrArg List.length numbered).symm
  · have number := List.mem_map_of_mem (f := Ticket.number) member
    rw [numbered, List.mem_range'_1] at number
    omega

/-! ## 4. Tickets -/

/-- What is true of tickets when a registry has been led somewhere by the
operations of a transcript. -/
structure TicketsHold (l : List Turn) (r : Registry) : Prop where
  /-- No ticket is issued twice. -/
  distinct : (tickets l).Nodup
  /-- Their numbers fit words of 64 bits, as long as there are fewer than
  `2 ^ 64`. -/
  words : r.WordsSuffice (tickets l)
  /-- A node is installed just when its ticket is current. -/
  installs : ∀ t s, (r.install t s).1 = true ↔ Current l t
  /-- Then it is tracked under its feed id, and the others are as before. -/
  installed : ∀ t s, (r.install t s).1 = true →
    ∀ f, (r.install t s).2.get? f = if t.feedId = f then some s else r.get? f
  /-- Otherwise nothing changes. -/
  refused : ∀ t s, (r.install t s).1 = false → (r.install t s).2 = r
  /-- Nothing changes either when a ticket is given back that is not current. -/
  ignored : ∀ t, ¬ Current l t → r.abandon t = r
  /-- A feed id is pending just when one of its tickets is current. -/
  pending : ∀ f, r.isPending f = true ↔ ∃ t, t.feedId = f ∧ Current l t

theorem install_fst (r : Registry) (t : Ticket) (s : Tracked) :
    (r.install t s).1 = r.isCurrent t := by
  unfold install
  cases r.isCurrent t <;> rfl

theorem abandon_of_not_current {r : Registry} {t : Ticket} (h : r.isCurrent t = false) :
    r.abandon t = r := by
  simp [abandon, h]

theorem isPending_iff {r : Registry} {f : FeedId} :
    r.isPending f = true ↔ ∃ n, r.ticket? f = some n :=
  Option.isSome_iff_exists

/-- After any operations on a registry that began empty, with tickets used and
used again in any order, the tickets hold that were issued and have not ended
since, and no others. -/
theorem tickets_hold (operations : List Operation) :
    TicketsHold (empty.transcript operations) (empty.after operations) := by
  have stands := stands_transcript operations
  have words := wordsSuffice_transcript operations
  generalize empty.transcript operations = l at stands words
  generalize empty.after operations = r at stands words
  refine
    { distinct := ?_
      words
      installs := ?_
      installed := ?_
      refused := ?_
      ignored := ?_
      pending := ?_ }
  · have numbers : ((tickets l).map Ticket.number).Nodup := by
      rw [stands.numbered]
      exact List.nodup_range'
    exact List.Nodup.of_map _ numbers
  · intro t s
    rw [install_fst, stands.isCurrent_iff]
  · intro t s done f
    rw [install_fst] at done
    exact get?_install done s f
  · intro t s refused
    rw [install_fst] at refused
    exact install_of_not_current refused s
  · intro t ended
    rw [← stands.isCurrent_iff, Bool.not_eq_true] at ended
    exact abandon_of_not_current ended
  · intro f
    rw [isPending_iff]
    constructor
    · rintro ⟨n, found⟩
      exact ⟨⟨f, n⟩, rfl, (stands.current ⟨f, n⟩).1 found⟩
    · rintro ⟨t, rfl, current⟩
      exact ⟨t.number, (stands.current t).2 current⟩

end Registry

end NodeWatch
