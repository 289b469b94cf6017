/-
NodeWatch.Proofs.LatestLocation — which location a node ends up with.

A feed id gets locations from its announcement and from the messages that
locate it.  They come in in the order of the feed, but each is left to a job
of its own, and the jobs set them in whatever order their pauses and the
store bring about.

Main statement: of a node that is announced once and stays, every location
that comes in is written to its record, once, and nothing else is; the
record keeps the one that was written last (`last_write_stays`).  That one
need not be the one that came in last: a location that had to wait for its
node overwrites one that came in later (`older_location_stays`).
-/
import NodeWatch.Proofs.FeedOrder
import NodeWatch.Proofs.Placing

namespace NodeWatch

/-! ## 1. Locations that come in -/

/-- The location that an event brings for a feed id, and the job that it is
left to. -/
def Event.brought? (f : FeedId) : Event → Option (JobId × Location)
  | .announced j ticket node => if ticket.feedId = f then node.location.map (j, ·) else none
  | .located j g l => if g = f then some (j, l) else none
  | _ => none

/-- The locations that come in for a feed id, in the order of the feed. -/
def brought (f : FeedId) (trace : List Event) : List (JobId × Location) :=
  trace.filterMap (Event.brought? f)

@[simp] theorem brought_nil (f : FeedId) : brought f [] = [] := rfl

theorem brought_cons (f : FeedId) (e : Event) (trace : List Event) :
    brought f (e :: trace) = (e.brought? f).toList ++ brought f trace :=
  filterMap_cons_toList (Event.brought? f) e trace

theorem brought_append (f : FeedId) (a b : List Event) :
    brought f (a ++ b) = brought f a ++ brought f b :=
  List.filterMap_append

namespace Event

theorem job?_of_brought? {f : FeedId} {e : Event} {j : JobId} {l : Location}
    (h : e.brought? f = some (j, l)) : e.job? = some j := by
  cases e with
  | announced k ticket node =>
    simp only [brought?] at h
    split at h
    · obtain ⟨l', -, same⟩ := Option.map_eq_some_iff.1 h
      cases same
      rfl
    · cases h
  | located k g l' =>
    simp only [brought?] at h
    split at h <;> cases h
    rfl
  | _ => cases h

theorem brought?_eq_none_of_created? {e : Event} {d : DurableId} (h : e.created? = some d)
    (f : FeedId) : e.brought? f = none := by
  cases e with
  | announced j ticket node => cases h
  | located j g l => cases h
  | _ => rfl

theorem job?_of_wrote? {d : DurableId} {e : Event} {j : JobId} {l : Location}
    (h : e.wrote? d = some (j, l)) : e.job? = some j := by
  rw [eq_placed_of_wrote? h]
  rfl

end Event

/-! ## 2. Logs with the same locations -/

section Logs

variable {g g' : Event → Option (JobId × Location)} {trace : List Event}

theorem count_logOf (own : ∀ {e j l}, g e = some (j, l) → e.job? = some j) (j : JobId)
    (l : Location) :
    ((logOf j trace).filterMap g).count (j, l) = (trace.filterMap g).count (j, l) := by
  induction trace with
  | nil => rfl
  | cons e rest ih =>
    have log : logOf j (e :: rest) = logOf j [e] ++ logOf j rest := logOf_append j [e] rest
    have whole : (e :: rest).filterMap g = [e].filterMap g ++ rest.filterMap g := by
      rw [← List.filterMap_append]
      rfl
    rw [log, whole, List.filterMap_append, List.count_append, List.count_append, ih]
    congr 1
    by_cases mine : e.job? = some j
    · simp [logOf, mine]
    · have absent : (j, l) ∉ [e].filterMap g := by
        intro told
        obtain ⟨e', he', given⟩ := List.mem_filterMap.1 told
        rw [List.mem_singleton.1 he'] at given
        exact mine (own given)
      simp [logOf, mine, List.count_eq_zero_of_not_mem absent]

/-- What is read off a trace job by job in two ways, with the same answers
for every job, has the same answers altogether. -/
theorem perm_of_logOf (own : ∀ {e j l}, g e = some (j, l) → e.job? = some j)
    (own' : ∀ {e j l}, g' e = some (j, l) → e.job? = some j)
    (same : ∀ j, (logOf j trace).filterMap g = (logOf j trace).filterMap g') :
    (trace.filterMap g).Perm (trace.filterMap g') := by
  rw [List.perm_iff_count]
  rintro ⟨j, l⟩
  rw [← count_logOf own j l, same j, count_logOf own' j l]

end Logs

/-! ## 3. Delivered locations -/

/-- Whether an event announces a node under a feed id. -/
def Event.announces (f : FeedId) : Event → Bool
  | .announced _ ticket _ => decide (ticket.feedId = f)
  | _ => false

namespace History

/-- Whether all locations of a feed id have been delivered. -/
structure Delivered (h : History) (f : FeedId) : Prop where
  unrefused : Unrefused h.trace
  /-- Only flushes are under way. -/
  finished : ∀ j job, h.job? j = some job → job.work = .flushing
  once : h.trace.countP (Event.announces f) = 1
  stays : ∃ e, lastWord f h.trace = some e ∧ e.announces f = true
  applied : ∀ j l, .located j f l ∈ h.trace →
    ∃ result d, .ended j result ∈ h.trace ∧ result.Applied d

/-- Whether the record of a feed id has the location that came in last. -/
def LatestStays (h : History) (f : FeedId) : Prop :=
  ∀ d j l, h.registry.durableId? f = some d → (brought f h.trace).getLast? = some (j, l) →
    ∃ kept, h.system.tracker.store.location? d = some kept ∧ kept.Agrees l

/-- Whether a record has been given the locations of a feed id. -/
structure Gets (h : History) (f : FeedId) (d : DurableId) : Prop where
  tracked : h.registry.durableId? f = some d
  /-- Every location that came in has been written once, and no other. -/
  each : (writes d h.trace).Perm (brought f h.trace)
  last : ∀ j l, (writes d h.trace).getLast? = some (j, l) →
    ∃ kept, h.system.tracker.store.location? d = some kept ∧ kept.Agrees l

variable {store : Store} {policy : RetryPolicy} {moves : List Move} {f : FeedId}

theorem Delivered.settled {h : History} (delivered : h.Delivered f) : h.Settled where
  created := delivered.unrefused.created
  idle j told ticket node underway := by
    have work := delivered.finished j _ underway
    cases work

theorem Delivered.announced_unique {h : History} (delivered : h.Delivered f) {e e' : Event}
    (told : e ∈ h.trace) (told' : e' ∈ h.trace) (announces : e.announces f = true)
    (announces' : e'.announces f = true) : e' = e := by
  have once := delivered.once
  rw [List.countP_eq_length_filter] at once
  obtain ⟨x, only⟩ := List.length_eq_one_iff.1 once
  have isOnly : ∀ y ∈ h.trace, y.announces f = true → y = x := by
    intro y hy yes
    have inFilter := List.mem_filter.2 ⟨hy, yes⟩
    rw [only] at inFilter
    exact List.mem_singleton.1 inFilter
  rw [isOnly e told announces, isOnly e' told' announces']

/-- A delivered feed id is tracked, and a record is the one that it is
tracked with just when it has been created for this feed id. -/
theorem Delivered.owner (feed : ∀ m ∈ moves, m.OfFeed)
    (delivered : (run store policy moves).Delivered f) :
    ∃ d, (run store policy moves).registry.durableId? f = some d ∧
      ∀ e ∈ (run store policy moves).trace, ∀ j ticket node d', e.Creates j ticket node d' →
        (ticket.feedId = f ↔ d' = d) := by
  obtain ⟨word, last, announces⟩ := delivered.stays
  cases word with
  | announced k ticket node =>
    obtain ⟨d, previous, installed, id⟩ := installed_of_lastWord feed delivered.settled last
    refine ⟨d, id, ?_⟩
    intro e told j t n d' created
    have whole := run_tells store policy moves
    constructor
    · -- There is one announcement of `f`, and a ticket is answered once.
      intro own
      obtain ⟨k', n', tail, -, -, log⟩ := log_of_answered feed told created.answered?
      have announced : .announced k' t n' ∈ (run store policy moves).trace :=
        mem_of_mem_logOf (log ▸ List.mem_cons_self)
      have same := delivered.announced_unique (mem_of_lastWord last).1 announced announces
        (decide_eq_true own)
      cases same
      have only := answer_unique feed installed told rfl created.answered?
      subst only
      exact created.2.2.2.symm
    · -- An id is created once.
      rintro rfl
      obtain rfl := mem_unique (counts_ids.nodup whole.1) told installed created.created? rfl
      rw [← created.2.1]
      exact of_decide_eq_true announces
  | _ => cases announces

end History

/-! ## 4. Every location is written once -/

theorem filterMap_tried {g : Event → Option (JobId × Location)} {j : JobId} {f : FeedId}
    {tries : List Event} (tried : ∀ e ∈ tries, e = .looked j f none)
    (quiet : g (.looked j f none) = none) : tries.filterMap g = [] := by
  refine List.filterMap_eq_nil_iff.2 fun e he => ?_
  rw [tried e he]
  exact quiet

/-- A job that is over has written to a record what it brought for a feed
id, if its record is that one just when its feed id is. -/
theorem Story.writes_brought {j : JobId} {log : List Event} {left : Option Job} {f : FeedId}
    {d : DurableId} (h : Story j log left)
    (finished : ∀ job, left = some job → job.work = .flushing) (unrefused : Unrefused log)
    (applied : ∀ k l, .located k f l ∈ log →
      ∃ result id, .ended k result ∈ log ∧ result.Applied id)
    (owner : ∀ e ∈ log, ∀ k ticket node id, e.Creates k ticket node id →
      (ticket.feedId = f ↔ id = d))
    (found : ∀ k g id, .looked k g (some id) ∈ log → (g = f ↔ id = d)) :
    writes d log = brought f log := by
  cases h with
  | aside aside flush =>
    have quiet : ∀ e ∈ log, e.wrote? d = none ∧ e.brought? f = none := by
      intro e he
      rcases aside e he with work | work <;> cases e <;> cases work <;> exact ⟨rfl, rfl⟩
    have nothing : writes d log = [] := List.filterMap_eq_nil_iff.2 fun e he => (quiet e he).1
    rw [nothing]
    exact (List.filterMap_eq_nil_iff.2 fun e he => (quiet e he).2).symm
  | unbegun told node => cases finished _ rfl
  | creating told ticket node => cases finished _ rfl
  | homing told made carried => cases finished _ rfl
  | @looking job task tries stands tried =>
    have work := finished job rfl
    cases job <;> cases work
    cases stands
  | @setting job task tries d' stands tried =>
    have work := finished job rfl
    cases job <;> cases work
    cases stands
  | uncreated ticket node cause result => exact absurd (by simp) (unrefused.created j ticket cause)
  | @created ticket node e d' result made carried =>
    have written := Event.wrote?_eq_none_of_created? made.created? d
    have given := Event.brought?_eq_none_of_created? made.created? f
    simp only [writes_cons, writes_nil, brought_cons, brought_nil, written, given]
    simp [Event.wrote?, Event.brought?, carried]
  | @homed ticket node e d' l done result made carried =>
    have written := Event.wrote?_eq_none_of_created? made.created? d
    have given := Event.brought?_eq_none_of_created? made.created? f
    have own := owner e (by simp) j ticket node d' made
    cases done with
    | false => exact absurd (by simp) (unrefused.placed j d' l)
    | true =>
      simp only [writes_cons, writes_nil, brought_cons, brought_nil, written, given]
      simp [Event.wrote?, Event.brought?, carried, own]
  | @unknown g l tries result tried lost =>
    have other : g ≠ f := by
      rintro rfl
      obtain ⟨result', id, ended, applied⟩ := applied j l List.mem_cons_self
      rcases List.mem_cons.1 ended with same | ended
      · cases same
      · rcases List.mem_append.1 ended with look | last
        · cases tried _ look
        · cases List.mem_singleton.1 last
          exact lost id applied
    have written : writes d tries = [] := filterMap_tried tried rfl
    have given : brought f tries = [] := filterMap_tried tried rfl
    simp [writes_cons, brought_cons, writes_append, brought_append, Event.wrote?, Event.brought?,
      written, given, other]
  | @set g l tries d' done result tried applies =>
    have written : writes d tries = [] := filterMap_tried tried rfl
    have given : brought f tries = [] := filterMap_tried tried rfl
    have own := found j g d' (by simp)
    cases done with
    | false => exact absurd (by simp) (unrefused.placed j d' l)
    | true =>
      simp [writes_cons, brought_cons, writes_append, brought_append, Event.wrote?,
        Event.brought?, written, given, own]

/-! ## 5. The last write -/

namespace History

variable {store : Store} {policy : RetryPolicy} {moves : List Move} {f : FeedId}

/-- Whatever the order in which jobs go on, a node that stays gets each of
its locations once, and keeps the one that was written last. -/
theorem last_write_stays (store : Store) (policy : RetryPolicy) {moves : List Move}
    (feed : ∀ m ∈ moves, m.OfFeed) {f : FeedId}
    (delivered : (run store policy moves).Delivered f) :
    ∃ d, (run store policy moves).Gets f d := by
  obtain ⟨d, tracked, owner⟩ := delivered.owner feed
  have found : ∀ k g id, .looked k g (some id) ∈ (run store policy moves).trace →
      (g = f ↔ id = d) := by
    intro k g id looked
    have told := (run_tells store policy moves).1
    obtain ⟨p, q, place⟩ := List.append_of_mem looked
    rw [place] at told
    obtain ⟨before, m, ticket, node, previous, life, rfl, rfl, -⟩ := told.installed_of_looked
    have installed : .installed m ticket node id previous ∈ (run store policy moves).trace := by
      rw [place]
      simp
    exact owner _ installed m ticket node id ⟨rfl, rfl, rfl, rfl⟩
  refine ⟨d, tracked, ?_, fun j l => location?_last feed⟩
  refine perm_of_logOf Event.job?_of_wrote? Event.job?_of_brought? fun j => ?_
  have inTrace : ∀ e ∈ logOf j (run store policy moves).trace,
      e ∈ (run store policy moves).trace := fun e => mem_of_mem_logOf
  refine (run_story store policy feed j).writes_brought (delivered.finished j) ?_ ?_ ?_ ?_
  · exact ⟨fun k ticket cause told => delivered.unrefused.created k ticket cause (inTrace _ told),
      fun k id l told => delivered.unrefused.placed k id l (inTrace _ told)⟩
  · intro k l told
    obtain ⟨result, id, ended, applied⟩ := delivered.applied k l (inTrace _ told)
    exact ⟨result, id, mem_logOf.2 ⟨ended, (mem_logOf.1 told).2⟩, applied⟩
  · exact fun e told => owner e (inTrace e told)
  · exact fun k g id told => found k g id (inTrace _ told)

/-- A node is located before its record is there, and the location has to
wait; meanwhile the record is created and the node is located again. -/
def exampleWaiting : List Move :=
  [.message 0 (.addedNode (exampleNode 7 none)),
    .message 0 (.locatedNode 7 (exampleLocation "Oslo")), .step 1 none, .step 0 none,
    .message 0 (.locatedNode 7 (exampleLocation "Berlin")), .step 2 none, .step 2 none,
    .step 1 none, .step 1 none]

theorem delivered_exampleWaiting :
    (run (.memory .empty) .default exampleWaiting).Delivered 7 := by
  have trace : (run (.memory .empty) .default exampleWaiting).trace =
    [.announced 0 _ _, .located 1 _ _, .looked 1 _ none, .installed 0 _ _ _ _, .ended 0 _,
      .located 2 _ _, .looked 2 _ (some 1), .placed 2 1 _ true, .ended 2 (.located (.applied 1 0)),
      .looked 1 _ (some 1), .placed 1 1 _ true, .ended 1 (.located (.applied 1 1))] := rfl
  refine ⟨⟨?_, ?_⟩, ?_, rfl, ⟨_, rfl, rfl⟩, ?_⟩
  · simp [trace]
  · simp [trace]
  · intro j job underway
    cases underway
  · intro j l told
    simp only [trace, List.mem_cons, Event.located.injEq, reduceCtorEq, List.not_mem_nil,
      false_or, or_false] at told
    rcases told with ⟨rfl, -⟩ | ⟨rfl, -⟩
    · exact ⟨.located (.applied 1 1), 1, by simp [trace], rfl⟩
    · exact ⟨.located (.applied 1 0), 1, by simp [trace], rfl⟩

theorem last_write_stays_exampleWaiting :
    (∀ m ∈ exampleWaiting, m.OfFeed) ∧
      (run (.memory .empty) .default exampleWaiting).Delivered 7 ∧
      ∃ d, (run (.memory .empty) .default exampleWaiting).Gets 7 d := by
  have feed : ∀ m ∈ exampleWaiting, m.OfFeed := by
    simp [exampleWaiting, Move.OfFeed]
  exact ⟨feed, delivered_exampleWaiting, last_write_stays _ _ feed delivered_exampleWaiting⟩

/-- The location that had to wait overwrites the one that came in later. -/
theorem older_location_stays :
    (∀ m ∈ exampleWaiting, m.OfFeed) ∧
      (run (.memory .empty) .default exampleWaiting).Delivered 7 ∧
      ¬ (run (.memory .empty) .default exampleWaiting).LatestStays 7 := by
  refine ⟨by simp [exampleWaiting, Move.OfFeed], delivered_exampleWaiting, ?_⟩
  intro latest
  obtain ⟨kept, found, agrees⟩ := latest 1 2 (exampleLocation "Berlin") rfl rfl
  have oslo : kept = exampleLocation "Oslo" := (Option.some.inj found).symm
  rw [oslo] at agrees
  exact absurd agrees.city (by decide)

end History

end NodeWatch
