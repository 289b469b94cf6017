/-
NodeWatch.Proofs.Interval — what a node tells between two snapshots.

An interval is the blocks of a node in their order, with the block that is
the best and the gauges that hold at its end.  A registry keeps sums and
counts of it (`Interval.tracked`), a history keeps their quotients
(`HistoryEntry.Closes`).  The sums are kept in words, and they are the sums
of the samples for as long as there are fewer than 2 ^ 64 of them
(`ofSamples_exact`).

An installation is cut at the snapshots that are taken while it lives:
`closed` are the intervals that they close, `left` is the one that is left
open.  No block is lost in between (`closed_append_left`).
-/
import NodeWatch.Proofs.Samples
import NodeWatch.Proofs.System.Origin

namespace NodeWatch

/-! ## 1. Intervals -/

/-- What a node has told since the last snapshot. -/
structure Interval where
  blocks : List Block
  /-- The block that came in last, before the interval or in it. -/
  best : Block
  gauges : Gauges

namespace Interval

/-- What an announcement tells. -/
def opening (node : Announcement) : Interval :=
  ⟨[node.block], node.block, node.gauges⟩

/-- What is known at the beginning of the next interval. -/
def next (i : Interval) : Interval :=
  { i with blocks := [] }

/-- The interval of a feed id after an event. -/
def take (f : FeedId) (i : Interval) : Event → Interval
  | .imported g b true => if g = f then { i with blocks := i.blocks ++ [b], best := b } else i
  | .gauged g gauges true => if g = f then { i with gauges } else i
  | .snapped _ _ _ => i.next
  | _ => i

/-- The block times of an interval. -/
def times (i : Interval) : List UInt64 :=
  i.blocks.map Block.time

/-- The propagation times of an interval: not every block has one. -/
def propagations (i : Interval) : List UInt64 :=
  i.blocks.filterMap Block.propagation

/-- What a registry keeps of an interval. -/
def tracked (i : Interval) (d : DurableId) : Tracked where
  durableId := d
  blockTimes := .ofSamples i.times
  propagationTimes := .ofSamples i.propagations
  peers := i.gauges.peers
  queued := i.gauges.queued
  bestNumber := i.best.number
  bestHash := i.best.hash

theorem tracked_opening (node : Announcement) (d : DurableId) :
    (opening node).tracked d = node.tracked d := by
  obtain ⟨_, _, _, block, _⟩ := node
  cases h : block.propagation <;>
    simp [tracked, opening, times, propagations, Announcement.tracked, Tracked.ofAnnouncement, h,
      Average.ofSamples, Average.ofSample, Average.ofOption]

theorem tracked_block (i : Interval) (b : Block) (d : DurableId) :
    tracked { i with blocks := i.blocks ++ [b], best := b } d = (i.tracked d).record b := by
  cases h : b.propagation <;>
    simp [tracked, times, propagations, Tracked.record, h, Average.ofSamples]

end Interval

/-- The registry takes an event as the interval does. -/
theorem Tracker.tracked_take {t : Tracker} {e : Event} {f : FeedId} {i : Interval}
    {d : DurableId} (fits : e.Fits t) (alive : e.ends f = false)
    (found : t.registry.get? f = some (i.tracked d)) :
    (t.follow e).registry.get? f = some ((i.take f e).tracked d) := by
  rw [get?_follow fits, found]
  cases e with
  | imported g b known =>
    by_cases own : g = f
    · have here : known = true := by
        rw [fits, own, found]
        rfl
      subst here
      simp [Event.statistics, Interval.take, own, Interval.tracked_block]
    · cases known <;> simp [Event.statistics, Interval.take, own]
  | gauged g gauges known =>
    by_cases own : g = f
    · have here : known = true := by
        rw [fits, own, found]
        rfl
      subst here
      simp only [Event.statistics, Interval.take, own, if_true]
      rfl
    · cases known <;> simp [Event.statistics, Interval.take, own]
  | removed g previous =>
    simp only [Event.ends, decide_eq_false_iff_not] at alive
    simp [Event.statistics, Interval.take, alive]
  | installed j ticket node id previous =>
    simp only [Event.ends, decide_eq_false_iff_not] at alive
    simp [Event.statistics, Interval.take, alive]
  | snapped j now readings => rfl
  | _ => rfl

/-! ## 2. Entries -/

/-- Whether statistics are those of an interval of the record with an id. -/
structure Tracked.Holds (s : Tracked) (d : DurableId) (i : Interval) : Prop where
  durableId : s.durableId = d
  blockTimes : s.blockTimes = ⟨Average.total i.times, i.blocks.length⟩
  propagationTimes : s.propagationTimes = ⟨Average.total i.propagations, i.propagations.length⟩
  peers : s.peers = i.gauges.peers
  queued : s.queued = i.gauges.queued
  bestNumber : s.bestNumber = i.best.number
  bestHash : s.bestHash = i.best.hash

/-- Whether an entry is the one that closes an interval of the record with
an id at an instant. -/
structure HistoryEntry.Closes (entry : HistoryEntry) (d : DurableId) (now : Int64)
    (i : Interval) : Prop where
  node : entry.node = d
  timestamp : entry.timestamp = now
  blocks : entry.blocks.toNat = i.blocks.length
  blockTime : entry.avgBlockTime.map UInt64.toNat = Average.integerMean i.times
  propagationTime :
    entry.avgPropagationTime.map UInt64.toNat = Average.integerMean i.propagations
  peers : entry.peers = i.gauges.peers
  queued : entry.queued = i.gauges.queued
  bestNumber : entry.bestNumber = i.best.number
  bestHash : entry.bestHash = i.best.hash

namespace Interval

theorem length_times (i : Interval) : i.times.length = i.blocks.length :=
  List.length_map _

theorem length_propagations_le (i : Interval) : i.propagations.length ≤ i.blocks.length :=
  List.length_filterMap_le _ _

theorem holds_tracked {i : Interval} (few : i.blocks.length < 2 ^ 64) (d : DurableId) :
    (i.tracked d).Holds d i := by
  have fewTimes : i.times.length < 2 ^ 64 := i.length_times ▸ few
  have fewPropagations := Nat.lt_of_le_of_lt i.length_propagations_le few
  refine ⟨rfl, ?_, Average.ofSamples_exact fewPropagations, rfl, rfl, rfl, rfl⟩
  rw [← i.length_times]
  exact Average.ofSamples_exact fewTimes

/-- The entry of a reading of an interval closes it. -/
theorem closes_of_toEntry {i : Interval} (few : i.blocks.length < 2 ^ 64) {d : DurableId}
    {f : FeedId} {now : Int64} {startup : Option Int64} {entry : HistoryEntry}
    (h : Reading.toEntry ⟨f, i.tracked d⟩ now startup = .ok entry) : entry.Closes d now i := by
  have fewTimes : i.times.length < 2 ^ 64 := i.length_times ▸ few
  have fewPropagations := Nat.lt_of_le_of_lt i.length_propagations_le few
  have holds := holds_tracked few d
  obtain ⟨uptime, rfl⟩ := Reading.eq_of_toEntry h
  refine ⟨rfl, rfl, ?_, Average.mean_ofSamples fewTimes, Average.mean_ofSamples fewPropagations,
    rfl, rfl, rfl, rfl⟩
  show (UInt64.ofNat (i.tracked d).blockTimes.count).toNat = i.blocks.length
  simp only [holds.blockTimes]
  exact UInt64.toNat_ofNat_of_lt' few

end Interval

/-! ## 3. Cutting at snapshots -/

/-- An interval that a snapshot has closed. -/
structure Closed where
  /-- The flush that took the snapshot. -/
  job : JobId
  now : Int64
  interval : Interval

namespace Event

/-- The snapshot that an event is: its flush, and when it was. -/
def snapshot? : Event → Option (JobId × Int64)
  | snapped j now _ => some (j, now)
  | _ => none

/-- The block that was recorded for a feed id. -/
def recorded? (f : FeedId) : Event → Option Block
  | imported g b true => if g = f then some b else none
  | _ => none

end Event

namespace Interval

/-- The intervals that the snapshots among events close. -/
def closed (f : FeedId) (i : Interval) : List Event → List Closed
  | [] => []
  | .snapped j now _ :: rest => ⟨j, now, i⟩ :: closed f i.next rest
  | e :: rest => closed f (i.take f e) rest

/-- The interval that events leave open. -/
def left (f : FeedId) (i : Interval) (events : List Event) : Interval :=
  events.foldl (take f) i

theorem closed_cons {f : FeedId} {i : Interval} {e : Event} {rest : List Event}
    (h : e.snapshot? = none) : closed f i (e :: rest) = closed f (i.take f e) rest := by
  cases e with
  | snapped j now readings => cases h
  | _ => rfl

/-- There is one closed interval for each snapshot. -/
theorem closed_snapshots (f : FeedId) (i : Interval) (events : List Event) :
    (closed f i events).map (fun c => (c.job, c.now)) = events.filterMap Event.snapshot? := by
  induction events generalizing i with
  | nil => rfl
  | cons e rest ih =>
    cases h : e.snapshot? with
    | none =>
      rw [closed_cons h, List.filterMap_cons_none h]
      exact ih _
    | some snapshot =>
      cases e with
      | snapped j now readings =>
        cases h
        exact congrArg _ (ih _)
      | _ => cases h

theorem take_blocks {f : FeedId} {i : Interval} {e : Event} (h : e.snapshot? = none) :
    (i.take f e).blocks = i.blocks ++ (e.recorded? f).toList := by
  cases e with
  | imported g b known =>
    cases known with
    | false => simp [take, Event.recorded?]
    | true =>
      simp only [take, Event.recorded?]
      split <;> simp
  | gauged g gauges known =>
    cases known with
    | false => simp [take, Event.recorded?]
    | true =>
      simp only [take, Event.recorded?]
      split <;> simp
  | snapped j now readings => cases h
  | _ => exact (List.append_nil _).symm

/-- The closed intervals and the one that is left open have all blocks, in
their order and each once. -/
theorem closed_append_left (f : FeedId) (i : Interval) (events : List Event) :
    ((closed f i events).map (·.interval.blocks)).flatten ++ (left f i events).blocks =
      i.blocks ++ events.filterMap (Event.recorded? f) := by
  induction events generalizing i with
  | nil => exact (List.append_nil _).symm
  | cons e rest ih =>
    cases h : e.snapshot? with
    | none =>
      have step := ih (i.take f e)
      rw [take_blocks h, List.append_assoc] at step
      rw [closed_cons h]
      refine step.trans ?_
      cases recorded : e.recorded? f with
      | none => simp [List.filterMap_cons_none recorded]
      | some b => simp [List.filterMap_cons_some recorded]
    | some snapshot =>
      cases e with
      | snapped j now readings =>
        have step := ih i.next
        simp only [closed, List.map_cons, List.flatten_cons, List.append_assoc]
        exact congrArg (i.blocks ++ ·) step
      | _ => cases h

theorem length_le_of_mem_closed {f : FeedId} {i : Interval} {events : List Event} {c : Closed}
    (h : c ∈ closed f i events) :
    c.interval.blocks.length ≤ (i.blocks ++ events.filterMap (Event.recorded? f)).length := by
  rw [← closed_append_left, List.length_append]
  have part := List.sublist_flatten_of_mem (List.mem_map_of_mem (f := (·.interval.blocks)) h)
  exact Nat.le_add_right_of_le part.length_le

theorem length_left_le (f : FeedId) (i : Interval) (events : List Event) :
    (left f i events).blocks.length ≤
      (i.blocks ++ events.filterMap (Event.recorded? f)).length := by
  rw [← closed_append_left, List.length_append]
  exact Nat.le_add_left _ _

end Interval

/-! ## 4. Intervals in a registry -/

namespace Tells

variable {t : Tracker} {f : FeedId} {i : Interval} {d : DurableId} {events : List Event}

/-- For as long as an installation lives, its open interval is tracked. -/
theorem tracked_left (told : Tells t events) (alive : ∀ e ∈ events, e.ends f = false)
    (found : t.registry.get? f = some (i.tracked d)) :
    (t.after events).registry.get? f = some ((i.left f events).tracked d) := by
  induction events generalizing t i with
  | nil => exact found
  | cons e rest ih =>
    obtain ⟨fits, told⟩ := told
    have aliveRest : ∀ e' ∈ rest, e'.ends f = false :=
      fun e' he' => alive e' (List.mem_cons_of_mem e he')
    exact ih told aliveRest (Tracker.tracked_take fits (alive e List.mem_cons_self) found)

/-- Each snapshot reads the interval that it closes. -/
theorem reading_of_closed (told : Tells t events) (alive : ∀ e ∈ events, e.ends f = false)
    (found : t.registry.get? f = some (i.tracked d)) {c : Closed} (h : c ∈ i.closed f events) :
    ∃ a readings b, events = a ++ .snapped c.job c.now readings :: b ∧
      ⟨f, c.interval.tracked d⟩ ∈ readings := by
  induction events generalizing t i with
  | nil => cases h
  | cons e rest ih =>
    obtain ⟨fits, told⟩ := told
    have aliveRest : ∀ e' ∈ rest, e'.ends f = false :=
      fun e' he' => alive e' (List.mem_cons_of_mem e he')
    have foundRest := Tracker.tracked_take fits (alive e List.mem_cons_self) found
    have later : c ∈ (i.take f e).closed f rest → ∃ a readings b,
        e :: rest = a ++ .snapped c.job c.now readings :: b ∧
          ⟨f, c.interval.tracked d⟩ ∈ readings := by
      intro h
      obtain ⟨a, readings, b, rfl, member⟩ := ih told aliveRest foundRest h
      exact ⟨e :: a, readings, b, rfl, member⟩
    cases snapshot : e.snapshot? with
    | none =>
      rw [Interval.closed_cons snapshot] at h
      exact later h
    | some pair =>
      cases e with
      | snapped j now readings =>
        rcases List.mem_cons.1 h with rfl | h
        · have member : ⟨f, i.tracked d⟩ ∈ readings := by
            rw [fits]
            exact Registry.mem_snapshot_iff.2 found
          exact ⟨[], readings, rest, rfl, member⟩
        · exact later h
      | _ => cases snapshot

end Tells

end NodeWatch
