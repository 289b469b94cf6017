/-
NodeWatch.Proofs.Conservation — no sample is lost and none counts twice.

An installation lives from the event that tells of it until its node is
removed or another one is installed under its feed id.  Its samples are the
announced block and the blocks that are recorded while it lives, and the
snapshots that are taken in the meantime cut them into groups.

Main statement: whatever the calls on the store come to and in whatever
order they return, the flush of each snapshot makes one attempt to append
the entry of its group, no other flush makes an attempt for this record,
and what is left over is tracked still, or is what the end of the
installation discards (`samples_conserved`).
-/
import Mathlib.Data.List.Nodup
import Mathlib.Data.List.TakeWhile
import NodeWatch.Proofs.Appending

namespace NodeWatch

/-! ## 1. Installations -/

/-- The part of what comes after an installation that it lives. -/
def life (f : FeedId) (after : List Event) : List Event :=
  after.takeWhile fun e => !e.ends f

/-- The statistics that an event discards. -/
def Event.discarded? : Event → Option Tracked
  | removed _ previous => previous
  | installed _ _ _ _ previous => previous
  | _ => none

/-- What is left of an installation in the end: what its end discards, or
what is still tracked if it has not come. -/
def History.remains (h : History) (f : FeedId) (after : List Event) : Option Tracked :=
  match after.dropWhile fun e => !e.ends f with
  | [] => h.registry.get? f
  | e :: _ => e.discarded?

/-- The attempts of a job to append an entry to the history of a record. -/
def attemptsFor (d : DurableId) (j : JobId) (trace : List Event) : List HistoryEntry :=
  (attempts j trace).filter fun entry => decide (entry.node = d)

theorem alive_life {f : FeedId} {after : List Event} : ∀ e ∈ life f after, e.ends f = false := by
  intro e he
  have alive := List.mem_takeWhile_imp he
  simpa using alive

/-- The life goes on over whatever does not end it. -/
theorem mem_life {f : FeedId} {a b : List Event} {e : Event} (alive : ∀ e ∈ a, e.ends f = false)
    (h : e.ends f = false) : e ∈ life f (a ++ e :: b) := by
  unfold life
  rw [List.takeWhile_append_of_pos fun e' he' => by simp [alive e' he'],
    List.takeWhile_cons_of_pos (by simp [h])]
  simp

/-- The account of an installation that begins with the interval `first`,
under a feed id and with the id of a record. -/
structure History.Accounted (h : History) (f : FeedId) (d : DurableId) (first : Interval)
    (after : List Event) : Prop where
  /-- The groups and what is left open are the samples, in their order. -/
  samples : ((first.closed f (life f after)).map (·.interval.blocks)).flatten ++
    (first.left f (life f after)).blocks =
      first.blocks ++ (life f after).filterMap (Event.recorded? f)
  /-- There is one group for each snapshot, of a flush of its own. -/
  snapshots : (first.closed f (life f after)).map (fun c => (c.job, c.now)) =
    (life f after).filterMap Event.snapshot?
  distinct : ((first.closed f (life f after)).map Closed.job).Nodup
  /-- What is left open is tracked still, or discarded. -/
  remainder : ∃ s, h.remains f after = some s ∧ s.Holds d (first.left f (life f after))
  /-- A flush that has ended has made one attempt to write its group. -/
  written : ∀ c ∈ first.closed f (life f after), ∀ result, .ended c.job result ∈ h.trace →
    ∃ entry, attemptsFor d c.job h.trace = [entry] ∧ entry.Closes d c.now c.interval
  /-- A flush that has not ended has made at most that attempt. -/
  underway : ∀ c ∈ first.closed f (life f after), attemptsFor d c.job h.trace = [] ∨
    ∃ entry, attemptsFor d c.job h.trace = [entry] ∧ entry.Closes d c.now c.interval
  /-- No other flush has made an attempt. -/
  others : ∀ j, j ∉ (first.closed f (life f after)).map Closed.job →
    attemptsFor d j h.trace = []

/-! ## 2. One reading for each record -/

/-- A snapshot reads one record in one place. -/
theorem Registry.filter_snapshot {r : Registry} {f : FeedId} {d : DurableId} {s : Tracked}
    (found : r.get? f = some s) (id : s.durableId = d)
    (unique : ∀ g s', r.get? g = some s' → s'.durableId = d → g = f) :
    r.snapshot.1.filter (fun reading => decide (reading.values.durableId = d)) = [⟨f, s⟩] := by
  have nodup : (r.snapshot.1.filter fun reading => decide (reading.values.durableId = d)).Nodup :=
    (List.Nodup.of_map Reading.feedId r.nodup_snapshot).filter _
  refine List.perm_singleton.1 ((List.perm_ext_iff_of_nodup nodup (List.nodup_singleton _)).2 ?_)
  rintro ⟨g, s'⟩
  rw [List.mem_filter, List.mem_singleton, mem_snapshot_iff]
  constructor
  · rintro ⟨found', same⟩
    obtain rfl := unique g s' found' (of_decide_eq_true same)
    rw [found] at found'
    cases found'
    rfl
  · rintro ⟨⟩
    exact ⟨found, decide_eq_true id⟩

/-- Attempts for the first readings of a flush, of which one is of a
record: there is at most one attempt for the record, and there is one if
the attempts are for all readings. -/
theorem filter_entered {now : Int64} {d : DurableId} {done todo : List Reading} {x : Reading}
    {entries : List HistoryEntry} (entered : List.Forall₂ (Entered now) done entries)
    (one : (done ++ todo).filter (fun reading => decide (reading.values.durableId = d)) = [x]) :
    (todo ≠ [] ∧ entries.filter (fun entry => decide (entry.node = d)) = []) ∨
      ∃ entry, entries.filter (fun entry => decide (entry.node = d)) = [entry] ∧
        Entered now x entry := by
  have kept : List.Forall₂ (Entered now)
      (done.filter fun reading => decide (reading.values.durableId = d))
      (entries.filter fun entry => decide (entry.node = d)) :=
    List.rel_filter (fun reading entry h => by simp [h.node]) entered
  rw [List.filter_append] at one
  cases first : done.filter fun reading => decide (reading.values.durableId = d) with
  | nil =>
    refine Or.inl ⟨?_, ?_⟩
    · rintro rfl
      rw [first] at one
      cases one
    · rw [first] at kept
      exact List.forall₂_nil_left_iff.1 kept
  | cons y rest =>
    rw [first] at one kept
    obtain ⟨rfl, none⟩ := List.cons.inj one
    obtain ⟨rfl, -⟩ := List.append_eq_nil_iff.1 none
    obtain ⟨entry, tail, fromReading, nothing, same⟩ := List.forall₂_cons_left_iff.1 kept
    rw [List.forall₂_nil_left_iff.1 nothing] at same
    exact Or.inr ⟨entry, same, fromReading⟩

/-- Every entry is that of a reading. -/
theorem exists_reading {now : Int64} {readings : List Reading} {entries : List HistoryEntry}
    {entry : HistoryEntry} (entered : List.Forall₂ (Entered now) readings entries)
    (h : entry ∈ entries) : ∃ reading ∈ readings, Entered now reading entry := by
  induction entered with
  | nil => cases h
  | @cons reading first _ _ fromReading _ ih =>
    rcases List.mem_cons.1 h with rfl | later
    · exact ⟨reading, List.mem_cons_self, fromReading⟩
    · obtain ⟨other, member, fromOther⟩ := ih later
      exact ⟨other, List.mem_cons_of_mem _ member, fromOther⟩

/-! ## 3. The account of a run -/

namespace History

section

variable {store : Store} {policy : RetryPolicy} {moves : List Move} {before after : List Event}
  {j : JobId} {ticket : Ticket} {node : Announcement} {d : DurableId} {previous : Option Tracked}

/-- The tracker with which an installation begins to live. -/
theorem tracked_of_installed
    (place : (run store policy moves).trace =
      before ++ .installed j ticket node d previous :: after) :
    Tells ((Tracker.ofStore store policy).after
        (before ++ [.installed j ticket node d previous])) after ∧
      ((Tracker.ofStore store policy).after
        (before ++ [.installed j ticket node d previous])).registry.get? ticket.feedId =
          some ((Interval.opening node).tracked d) := by
  have told := (run_tells store policy moves).1
  rw [place] at told
  obtain ⟨-, fits, toldAfter⟩ := tells_append.1 told
  rw [Tracker.after_append, Tracker.after_cons, Tracker.after_nil]
  refine ⟨toldAfter, ?_⟩
  rw [Tracker.get?_follow fits, Interval.tracked_opening]
  simp [Event.statistics]

/-- What a flush of a group read of the record. -/
theorem reading_of_group
    (place : (run store policy moves).trace =
      before ++ .installed j ticket node d previous :: after) {c : Closed}
    (group : c ∈ (Interval.opening node).closed ticket.feedId (life ticket.feedId after)) :
    ∃ readings, .snapped c.job c.now readings ∈ (run store policy moves).trace ∧
      readings.filter (fun reading => decide (reading.values.durableId = d)) =
        [⟨ticket.feedId, c.interval.tracked d⟩] := by
  have told := (run_tells store policy moves).1
  obtain ⟨toldAfter, found⟩ := tracked_of_installed place
  have split : after = life ticket.feedId after ++
      after.dropWhile fun e => !e.ends ticket.feedId := List.takeWhile_append_dropWhile.symm
  generalize after.dropWhile (fun e => !e.ends ticket.feedId) = rest at split
  rw [split] at toldAfter
  obtain ⟨a, readings, b, cut, member⟩ :=
    (tells_append.1 toldAfter).1.reading_of_closed alive_life found group
  have sofar : (run store policy moves).trace =
      (before ++ .installed j ticket node d previous :: a) ++
        .snapped c.job c.now readings :: (b ++ rest) := by
    rw [place, split, cut]
    simp
  have fits := (sofar ▸ told).fits
  rw [Event.Fits] at fits
  refine ⟨readings, sofar ▸ List.mem_append_right _ List.mem_cons_self, ?_⟩
  rw [fits] at member ⊢
  have found := Registry.mem_snapshot_iff.1 member
  refine Registry.filter_snapshot found rfl ?_
  intro g s found' id
  exact (told.life_of_tracked place sofar found' id).1

/-- The attempts of the flush of a group: one for the record, once it has
ended and for good. -/
theorem attemptsFor_group
    (place : (run store policy moves).trace =
      before ++ .installed j ticket node d previous :: after) {c : Closed}
    (group : c ∈ (Interval.opening node).closed ticket.feedId (life ticket.feedId after))
    (exact : .ended c.job (.lost .subtract) ∉ (run store policy moves).trace) :
    ((∀ result, .ended c.job result ∉ (run store policy moves).trace) ∧
        attemptsFor d c.job (run store policy moves).trace = []) ∨
      ∃ entry, attemptsFor d c.job (run store policy moves).trace = [entry] ∧
        Entered c.now ⟨ticket.feedId, c.interval.tracked d⟩ entry := by
  obtain ⟨readings, snapped, one⟩ := reading_of_group place group
  obtain ⟨done, todo, rfl, entered, complete⟩ := attempts_of_snapped snapped
  -- The reading of the record is either owed still or has been gone through.
  rcases filter_entered entered one with ⟨owing, none⟩ | written
  · refine Or.inl ⟨?_, none⟩
    intro result ended
    rcases complete result ended with nothing | lost
    · exact owing nothing
    · exact exact lost
  · exact Or.inr written

/-- A flush that makes an attempt for a record has taken its snapshot while
the installation lived. -/
theorem mem_group_of_attempt
    (place : (run store policy moves).trace =
      before ++ .installed j ticket node d previous :: after) {k : JobId} {entry : HistoryEntry}
    (h : entry ∈ attemptsFor d k (run store policy moves).trace) :
    k ∈ ((Interval.opening node).closed ticket.feedId
      (life ticket.feedId after)).map Closed.job := by
  have told := (run_tells store policy moves).1
  obtain ⟨attempt, ofRecord⟩ := List.mem_filter.1 h
  by_cases snapped : ∃ now readings, .snapped k now readings ∈ (run store policy moves).trace
  · obtain ⟨now, readings, snapped⟩ := snapped
    obtain ⟨done, todo, rfl, entered, -⟩ := attempts_of_snapped snapped
    obtain ⟨reading, isDone, fromReading⟩ := exists_reading entered attempt
    obtain ⟨p, q, sofar⟩ := List.append_of_mem snapped
    have fits := (sofar ▸ told).fits
    rw [Event.Fits] at fits
    have member := List.mem_append_left todo isDone
    rw [fits] at member
    have found := Registry.mem_snapshot_iff.1 member
    have id : reading.values.durableId = d :=
      fromReading.node.symm.trans (of_decide_eq_true ofRecord)
    obtain ⟨-, lived, -, rfl, alive⟩ := told.life_of_tracked place sofar found id
    have live : .snapped k now (done ++ todo) ∈
        life ticket.feedId (lived ++ .snapped k now (done ++ todo) :: q) := mem_life alive rfl
    have listed : (k, now) ∈ (life ticket.feedId
        (lived ++ .snapped k now (done ++ todo) :: q)).filterMap Event.snapshot? :=
      List.mem_filterMap.2 ⟨_, live, rfl⟩
    rw [← Interval.closed_snapshots ticket.feedId (.opening node)] at listed
    obtain ⟨c, group, same⟩ := List.mem_map.1 listed
    exact List.mem_map.2 ⟨c, group, congrArg Prod.fst same⟩
  · have none := attempts_of_not_snapped fun now readings member => snapped ⟨now, readings, member⟩
    rw [none] at attempt
    cases attempt

/-- What is left of an installation in the end is its last interval. -/
theorem remains_of_installed
    (place : (run store policy moves).trace =
      before ++ .installed j ticket node d previous :: after) :
    (run store policy moves).remains ticket.feedId after =
      some (((Interval.opening node).left ticket.feedId (life ticket.feedId after)).tracked d) := by
  have told := run_tells store policy moves
  obtain ⟨toldAfter, found⟩ := tracked_of_installed place
  have split : after = life ticket.feedId after ++
      after.dropWhile fun e => !e.ends ticket.feedId := List.takeWhile_append_dropWhile.symm
  have ending := List.head?_dropWhile_not (fun e => !e.ends ticket.feedId) after
  unfold remains
  generalize after.dropWhile (fun e => !e.ends ticket.feedId) = rest at split ending
  rw [split, tells_append] at toldAfter
  have left := toldAfter.1.tracked_left alive_life found
  cases rest with
  | nil =>
    rw [List.append_nil] at split
    show (run store policy moves).system.tracker.registry.get? ticket.feedId = _
    rw [told.2, place, List.append_cons, Tracker.after_append, ← left, ← split]
  | cons e more =>
    have fits := toldAfter.2.1
    have ends : e.ends ticket.feedId = true := by simpa using ending
    cases e with
    | removed g previous =>
      obtain rfl := of_decide_eq_true ends
      exact fits.trans left
    | installed k ticket' node' d' previous =>
      have same := of_decide_eq_true ends
      have discarded := fits.2.1
      rw [same] at discarded
      exact discarded.trans left
    | _ => cases ends

end

/-- Every sample of an installation is in one group, each group that a
snapshot has closed is written by the flush of that snapshot in one
attempt, and by no other flush, and the last one is tracked still or
discarded. -/
theorem samples_conserved (store : Store) (policy : RetryPolicy) (moves : List Move)
    {before after : List Event} {j : JobId} {ticket : Ticket} {node : Announcement}
    {d : DurableId} {previous : Option Tracked}
    (place : (run store policy moves).trace =
      before ++ .installed j ticket node d previous :: after)
    (few : (node.block :: (life ticket.feedId after).filterMap
      (Event.recorded? ticket.feedId)).length < 2 ^ 64)
    (exact : ∀ k, .ended k (.lost .subtract) ∉ (run store policy moves).trace) :
    (run store policy moves).Accounted ticket.feedId d (.opening node) after := by
  have fewLeft := Nat.lt_of_le_of_lt
    (Interval.length_left_le ticket.feedId (.opening node) (life ticket.feedId after)) few
  have written : ∀ c ∈ (Interval.opening node).closed ticket.feedId (life ticket.feedId after),
      ∀ entry, Entered c.now ⟨ticket.feedId, c.interval.tracked d⟩ entry →
        entry.Closes d c.now c.interval := by
    rintro c group entry ⟨startup, h⟩
    have fewClosed := Nat.lt_of_le_of_lt (Interval.length_le_of_mem_closed group) few
    exact Interval.closes_of_toEntry fewClosed h
  refine
    { samples := Interval.closed_append_left ticket.feedId (.opening node) _
      snapshots := Interval.closed_snapshots ticket.feedId (.opening node) _
      distinct := ?_
      remainder := ⟨_, remains_of_installed place, Interval.holds_tracked fewLeft d⟩
      written := ?_
      underway := ?_
      others := ?_ }
  · have names := congrArg (List.map Prod.fst)
      (Interval.closed_snapshots ticket.feedId (.opening node) (life ticket.feedId after))
    rw [List.map_map] at names
    have part : List.Sublist (life ticket.feedId after) (run store policy moves).trace := by
      rw [place]
      exact (List.takeWhile_sublist _).trans
        ((List.sublist_cons_self _ after).trans (List.sublist_append_right before _))
    have once := (nodup_snapshots store policy moves).sublist
      ((part.filterMap Event.snapshot?).map Prod.fst)
    rw [← names] at once
    exact once
  · intro c group result ended
    rcases attemptsFor_group place group (exact c.job) with ⟨running, -⟩ | ⟨entry, one, h⟩
    · exact absurd ended (running result)
    · exact ⟨entry, one, written c group entry h⟩
  · intro c group
    rcases attemptsFor_group place group (exact c.job) with ⟨-, none⟩ | ⟨entry, one, h⟩
    · exact Or.inl none
    · exact Or.inr ⟨entry, one, written c group entry h⟩
  · intro k other
    refine List.eq_nil_iff_forall_not_mem.2 ?_
    intro entry h
    exact other (mem_group_of_attempt place h)

/-- A node is announced, tells of a block, and its entry is written. -/
def exampleFlush : List Move :=
  [.message 0 (.addedNode (exampleNode 7 none)), .step 0 none,
    .message 0 (.importedBlock 7 (exampleBlock 6200)), .call (.flush 1000), .step 1 none,
    .step 1 none, .step 1 none]

theorem samples_conserved_exampleFlush :
    ∃ after, (run (.memory .empty) .default exampleFlush).trace =
        [.announced 0 ⟨7, 1⟩ (exampleNode 7 none)] ++
          .installed 0 ⟨7, 1⟩ (exampleNode 7 none) 1 none :: after ∧
      (run (.memory .empty) .default exampleFlush).Accounted 7 1
        (.opening (exampleNode 7 none)) after := by
  have whole : (run (.memory .empty) .default exampleFlush).trace =
      [.announced 0 ⟨7, 1⟩ (exampleNode 7 none)] ++
        .installed 0 ⟨7, 1⟩ (exampleNode 7 none) 1 none ::
          [.ended 0 (.announced _), .imported 7 (exampleBlock 6200) true, .snapped 1 1000 _,
            .appended 1 _ true, .ended 1 (.flushed _)] := rfl
  refine ⟨_, whole, samples_conserved _ _ _ whole (by decide) ?_⟩
  intro k
  rw [whole]
  simp

end History

end NodeWatch
