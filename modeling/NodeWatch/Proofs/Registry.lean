/-
NodeWatch.Proofs.Registry — what each operation of the registry does to
what is found in it.

A registry is read in three ways: the statistics under a feed id, the
number of its current ticket, and how many tickets have been issued.  For
every operation there is one lemma for each reading, so that nothing after
this module opens an operation again.

The readings of a snapshot are the tracked nodes, each once
(`mem_snapshot_iff`, `nodup_snapshot`).

Tickets are counted without a bound here.  What they say is said of words of
64 bits too, for as long as these suffice (`WordsSuffice`).
-/
import NodeWatch.Tracker.Registry

namespace NodeWatch

namespace Registry

/-- The number of the current ticket of a feed id. -/
def ticket? (r : Registry) (f : FeedId) : Option Nat :=
  r.pending.get? f

theorem isPending_eq (r : Registry) (f : FeedId) : r.isPending f = (r.ticket? f).isSome := rfl

/-! ## 1. Tickets -/

@[simp] theorem get?_empty (f : FeedId) : empty.get? f = none := rfl

@[simp] theorem ticket?_empty (f : FeedId) : empty.ticket? f = none := rfl

theorem isCurrent_iff {r : Registry} {t : Ticket} :
    r.isCurrent t = true ↔ r.ticket? t.feedId = some t.number := by
  simp [isCurrent, ticket?]

/-- A feed id has one current ticket at most. -/
theorem eq_of_isCurrent {r : Registry} {t u : Ticket} (ht : r.isCurrent t = true)
    (hu : r.isCurrent u = true) (same : t.feedId = u.feedId) : t = u := by
  rw [isCurrent_iff] at ht hu
  rw [same, hu] at ht
  cases t
  cases u
  simp_all

@[simp] theorem issue_fst (r : Registry) (f : FeedId) : (r.issue f).1 = ⟨f, r.issued + 1⟩ := rfl

@[simp] theorem get?_issue (r : Registry) (f g : FeedId) : (r.issue f).2.get? g = r.get? g := rfl

@[simp] theorem issued_issue (r : Registry) (f : FeedId) :
    (r.issue f).2.issued = r.issued + 1 := rfl

theorem ticket?_issue (r : Registry) (f g : FeedId) :
    (r.issue f).2.ticket? g = if f = g then some (r.issued + 1) else r.ticket? g :=
  r.pending.get?_insert f g (r.issued + 1)

/-- Whether words of 64 bits hold the numbers of the tickets that a registry has
issued: one that counts in such words has issued the same tickets, as long as
there are fewer than `2 ^ 64`. -/
structure WordsSuffice (r : Registry) (tickets : List Ticket) : Prop where
  counted : r.issued = tickets.length
  fit : tickets.length < 2 ^ 64 → ∀ t ∈ tickets, t.number < 2 ^ 64

theorem wordsSuffice_of_le {r : Registry} {tickets : List Ticket}
    (counted : r.issued = tickets.length) (le : ∀ t ∈ tickets, t.number ≤ r.issued) :
    r.WordsSuffice tickets where
  counted
  fit few t member := Nat.lt_of_le_of_lt (counted ▸ le t member) few

theorem install_of_current {r : Registry} {t : Ticket} (h : r.isCurrent t = true) (s : Tracked) :
    (r.install t s).2 =
      { r with pending := r.pending.erase t.feedId, tracked := r.tracked.insert t.feedId s } := by
  simp [install, h]

theorem install_of_not_current {r : Registry} {t : Ticket} (h : r.isCurrent t = false)
    (s : Tracked) : (r.install t s).2 = r := by
  simp [install, h]

theorem get?_install {r : Registry} {t : Ticket} (h : r.isCurrent t = true) (s : Tracked)
    (g : FeedId) : (r.install t s).2.get? g = if t.feedId = g then some s else r.get? g := by
  rw [install_of_current h]
  exact r.tracked.get?_insert t.feedId g s

theorem ticket?_install {r : Registry} {t : Ticket} (h : r.isCurrent t = true) (s : Tracked)
    (g : FeedId) : (r.install t s).2.ticket? g = if t.feedId = g then none else r.ticket? g := by
  rw [install_of_current h]
  exact r.pending.get?_erase t.feedId g

theorem get?_install_eq (r : Registry) (t : Ticket) (s : Tracked) (f : FeedId) :
    (r.install t s).2.get? f =
      if r.isCurrent t = true ∧ t.feedId = f then some s else r.get? f := by
  by_cases current : r.isCurrent t = true
  · simp [get?_install current, current]
  · rw [install_of_not_current (by simpa using current), if_neg fun both => current both.1]

theorem ticket?_install_eq (r : Registry) (t : Ticket) (s : Tracked) (f : FeedId) :
    (r.install t s).2.ticket? f =
      if r.isCurrent t = true ∧ t.feedId = f then none else r.ticket? f := by
  by_cases current : r.isCurrent t = true
  · simp [ticket?_install current, current]
  · rw [install_of_not_current (by simpa using current), if_neg fun both => current both.1]

@[simp] theorem issued_install (r : Registry) (t : Ticket) (s : Tracked) :
    (r.install t s).2.issued = r.issued := by
  unfold install
  split <;> rfl

@[simp] theorem get?_abandon (r : Registry) (t : Ticket) (g : FeedId) :
    (r.abandon t).get? g = r.get? g := by
  unfold abandon
  split <;> rfl

theorem ticket?_abandon (r : Registry) (t : Ticket) (g : FeedId) :
    (r.abandon t).ticket? g =
      if r.isCurrent t = true ∧ t.feedId = g then none else r.ticket? g := by
  unfold abandon
  by_cases h : r.isCurrent t = true
  · simp only [h, if_true, true_and]
    exact r.pending.get?_erase t.feedId g
  · simp [h]

@[simp] theorem issued_abandon (r : Registry) (t : Ticket) : (r.abandon t).issued = r.issued := by
  unfold abandon
  split <;> rfl

/-! ## 2. Changes of one node -/

theorem modify_fst (r : Registry) (f : FeedId) (change : Tracked → Tracked) :
    (r.modify f change).1 = (r.get? f).isSome := by
  unfold modify
  cases r.get? f <;> rfl

theorem get?_modify (r : Registry) (f g : FeedId) (change : Tracked → Tracked) :
    (r.modify f change).2.get? g = if f = g then (r.get? f).map change else r.get? g := by
  unfold modify
  cases found : r.get? f with
  | none =>
    by_cases h : f = g
    · subst h
      simp [found]
    · simp [h]
  | some s => exact r.tracked.get?_insert f g (change s)

@[simp] theorem ticket?_modify (r : Registry) (f g : FeedId) (change : Tracked → Tracked) :
    (r.modify f change).2.ticket? g = r.ticket? g := by
  unfold modify
  cases r.get? f <;> rfl

@[simp] theorem issued_modify (r : Registry) (f : FeedId) (change : Tracked → Tracked) :
    (r.modify f change).2.issued = r.issued := by
  unfold modify
  cases r.get? f <;> rfl

theorem recordBlock_fst (r : Registry) (f : FeedId) (block : Block) :
    (r.recordBlock f block).1 = (r.get? f).isSome :=
  r.modify_fst f _

theorem setGauges_fst (r : Registry) (f : FeedId) (gauges : Gauges) :
    (r.setGauges f gauges).1 = (r.get? f).isSome :=
  r.modify_fst f _

theorem get?_remove (r : Registry) (f g : FeedId) :
    (r.remove f).2.get? g = if f = g then none else r.get? g :=
  r.tracked.get?_erase f g

theorem ticket?_remove (r : Registry) (f g : FeedId) :
    (r.remove f).2.ticket? g = if f = g then none else r.ticket? g :=
  r.pending.get?_erase f g

@[simp] theorem issued_remove (r : Registry) (f : FeedId) : (r.remove f).2.issued = r.issued := rfl

/-! ## 3. Snapshots -/

theorem get?_snapshot (r : Registry) (f : FeedId) :
    r.snapshot.2.get? f = (r.get? f).map Tracked.reset :=
  r.tracked.get?_mapValues (fun _ s => s.reset) f

@[simp] theorem ticket?_snapshot (r : Registry) (f : FeedId) :
    r.snapshot.2.ticket? f = r.ticket? f := rfl

@[simp] theorem issued_snapshot (r : Registry) : r.snapshot.2.issued = r.issued := rfl

end Registry

namespace Reading

theorem perm_insert (r : Reading) (l : List Reading) : (insert r l).Perm (r :: l) := by
  induction l with
  | nil => exact List.Perm.refl _
  | cons s rest ih =>
    unfold insert
    split
    · exact List.Perm.refl _
    · exact (ih.cons s).trans (List.Perm.swap r s rest)

theorem perm_sort (l : List Reading) : (sort l).Perm l := by
  induction l with
  | nil => exact List.Perm.refl _
  | cons r rest ih => exact (perm_insert r (sort rest)).trans (ih.cons r)

theorem durableId_le_of_le {a b : Reading} (h : a.le b = true) :
    a.values.durableId.toInt ≤ b.values.durableId.toInt := by
  simp only [le, Bool.or_eq_true, Bool.and_eq_true, decide_eq_true_eq, beq_iff_eq,
    Int64.lt_iff_toInt_lt] at h
  rcases h with less | ⟨same, -⟩
  · omega
  · exact Int.le_of_eq (congrArg Int64.toInt same)

theorem durableId_le_of_not_le {a b : Reading} (h : a.le b = false) :
    b.values.durableId.toInt ≤ a.values.durableId.toInt := by
  simp only [le, Bool.or_eq_false_iff, decide_eq_false_iff_not, Int64.lt_iff_toInt_lt] at h
  omega

theorem ascending_insert (r : Reading) {l : List Reading}
    (h : l.Pairwise fun a b => a.values.durableId.toInt ≤ b.values.durableId.toInt) :
    (insert r l).Pairwise fun a b => a.values.durableId.toInt ≤ b.values.durableId.toInt := by
  induction l with
  | nil => simp [insert]
  | cons s rest ih =>
    rw [List.pairwise_cons] at h
    unfold insert
    cases order : r.le s with
    | true =>
      have first := durableId_le_of_le order
      simp only [if_true, List.pairwise_cons, List.mem_cons]
      refine ⟨?_, h⟩
      rintro a (rfl | later)
      · exact first
      · have second := h.1 a later
        omega
    | false =>
      simp only [Bool.false_eq_true, if_false, List.pairwise_cons]
      refine ⟨?_, ih h.2⟩
      intro a member
      rcases List.mem_cons.1 ((perm_insert r rest).mem_iff.1 member) with rfl | later
      · exact durableId_le_of_not_le order
      · exact h.1 a later

theorem ascending_sort (l : List Reading) :
    (sort l).Pairwise fun a b => a.values.durableId.toInt ≤ b.values.durableId.toInt := by
  induction l with
  | nil => exact List.Pairwise.nil
  | cons r rest ih => exact ascending_insert r ih

/-- The entry of a reading with an uptime. -/
def entry (r : Reading) (now : Int64) (uptime : Option Int64) : HistoryEntry where
  node := r.values.durableId
  timestamp := now
  avgBlockTime := r.values.blockTimes.mean
  avgPropagationTime := r.values.propagationTimes.mean
  peers := r.values.peers
  queued := r.values.queued
  bestNumber := r.values.bestNumber
  bestHash := r.values.bestHash
  blocks := UInt64.ofNat r.values.blockTimes.count
  uptime

/-- Only the uptime of an entry has to be worked out. -/
theorem toEntry_eq (r : Reading) (now : Int64) (startup : Option Int64) :
    r.toEntry now startup =
      (startup.mapM fun startup => Word.subtract now startup).map (r.entry now) := by
  unfold toEntry
  cases startup.mapM fun startup => Word.subtract now startup <;> rfl

theorem eq_of_toEntry {r : Reading} {now : Int64} {startup : Option Int64} {e : HistoryEntry}
    (h : r.toEntry now startup = .ok e) : ∃ uptime, e = r.entry now uptime := by
  rw [toEntry_eq] at h
  cases worked : startup.mapM fun startup => Word.subtract now startup with
  | error cause => simp [worked, Except.map] at h
  | ok uptime =>
    rw [worked] at h
    exact ⟨uptime, (Except.ok.inj h).symm⟩

/-- Only the uptime of an entry can overflow. -/
theorem toEntry_error {r : Reading} {now : Int64} {startup : Option Int64} {cause : Overflow}
    (h : r.toEntry now startup = .error cause) : cause = .subtract := by
  rw [toEntry_eq] at h
  cases startup with
  | none => cases h
  | some startup =>
    rw [Option.mapM_some, Word.subtract, Word.signed] at h
    split at h <;> cases h
    rfl

end Reading

namespace Registry

theorem snapshot_perm (r : Registry) :
    r.snapshot.1.Perm (r.tracked.entries.map fun (f, s) => ⟨f, s⟩) :=
  Reading.perm_sort _

theorem mem_snapshot_iff {r : Registry} {f : FeedId} {s : Tracked} :
    ⟨f, s⟩ ∈ r.snapshot.1 ↔ r.get? f = some s := by
  rw [r.snapshot_perm.mem_iff, get?, ← Table.mem_entries_iff]
  constructor
  · intro h
    obtain ⟨pair, member, e⟩ := List.mem_map.1 h
    obtain ⟨rfl, rfl⟩ := Reading.mk.inj e
    exact member
  · intro h
    exact List.mem_map.2 ⟨(f, s), h, rfl⟩

/-- A snapshot reads no feed id twice. -/
theorem nodup_snapshot (r : Registry) : (r.snapshot.1.map Reading.feedId).Nodup := by
  have h := (r.snapshot_perm.map Reading.feedId).nodup_iff
  rw [h, List.map_map]
  exact r.tracked.distinct

/-- Where no two nodes share a durable id, a snapshot ascends strictly. -/
theorem ascending_snapshot {r : Registry}
    (distinct : ∀ f g s s', r.get? f = some s → r.get? g = some s' →
      s.durableId = s'.durableId → f = g) :
    r.snapshot.1.Pairwise fun a b => a.values.durableId < b.values.durableId := by
  have order := Reading.ascending_sort (r.tracked.entries.map fun (f, s) => ⟨f, s⟩)
  have once : r.snapshot.1.Pairwise fun a b => a.feedId ≠ b.feedId :=
    List.pairwise_map.1 r.nodup_snapshot
  refine (order.and once).imp_of_mem ?_
  rintro ⟨f, s⟩ ⟨g, s'⟩ first second ⟨le, other⟩
  rw [Int64.lt_iff_toInt_lt]
  have apart : s.durableId.toInt ≠ s'.durableId.toInt := by
    intro same
    exact other (distinct f g s s' (mem_snapshot_iff.1 first) (mem_snapshot_iff.1 second)
      (Int64.toInt_inj.1 same))
  exact Int.lt_iff_le_and_ne.2 ⟨le, apart⟩

/-- Then its order does not depend on the one in which the nodes are found. -/
theorem sort_of_perm {r : Registry}
    (distinct : ∀ f g s s', r.get? f = some s → r.get? g = some s' →
      s.durableId = s'.durableId → f = g)
    {found : List Reading} (perm : found.Perm r.snapshot.1) : Reading.sort found = r.snapshot.1 := by
  have perm' := (Reading.perm_sort found).trans perm
  refine perm'.eq_of_pairwise ?_ (Reading.ascending_sort found) (Reading.ascending_sort _)
  rintro ⟨f, s⟩ ⟨g, s'⟩ first second le le'
  have here := mem_snapshot_iff.1 (perm'.mem_iff.1 first)
  have there := mem_snapshot_iff.1 second
  have same : s.durableId = s'.durableId := Int64.toInt_inj.1 (Int.le_antisymm le le')
  obtain rfl := distinct f g s s' here there same
  rw [here] at there
  rw [Option.some.inj there]

end Registry

end NodeWatch
