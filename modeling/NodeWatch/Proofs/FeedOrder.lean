/-
NodeWatch.Proofs.FeedOrder — tracking follows the feed and not the store.

The last word on a feed id is its latest announcement or removal.  Records
are created late and in any order, but how a feed id stands depends on the
last word alone (`Stands`): after a removal it has no ticket and is not
tracked; after an announcement it has the ticket of that announcement for
as long as the record is being created, and then it is tracked with that
record.

Main statement: in every run of the feed a feed id whose last word is no
announcement is untracked, and once every record has been created the
tracked ids are those of the last announcements (`tracking_follows_feed`).
-/
import NodeWatch.Proofs.System.Story

namespace NodeWatch

/-! ## 1. The last word -/

/-- Whether an event is a word on a feed id: an announcement or a removal. -/
def Event.decides (f : FeedId) : Event → Bool
  | .announced _ ticket _ => decide (ticket.feedId = f)
  | .removed g _ => decide (g = f)
  | _ => false

/-- The latest word on a feed id. -/
def lastWord (f : FeedId) (trace : List Event) : Option Event :=
  (trace.filter (Event.decides f)).getLast?

theorem lastWord_concat (f : FeedId) (trace : List Event) (e : Event) :
    lastWord f (trace ++ [e]) = if e.decides f then some e else lastWord f trace := by
  unfold lastWord
  rw [List.filter_append]
  cases h : e.decides f <;> simp [h]

theorem mem_of_lastWord {f : FeedId} {trace : List Event} {e : Event}
    (h : lastWord f trace = some e) : e ∈ trace ∧ e.decides f = true :=
  List.mem_filter.1 (List.mem_of_getLast? h)

/-- What has been told so far, in a run of the feed. -/
structure InOrder (store : Store) (policy : RetryPolicy) (trace : List Event) : Prop where
  told : Tells (.ofStore store policy) trace
  unissued : ∀ ticket, .issued ticket ∉ trace
  answers : ∀ {a b e ticket}, trace = a ++ e :: b → e.answered? = some ticket →
    ∃ j node, e.Answers j ticket node ∧ .announced j ticket node ∈ a

namespace InOrder

variable {store : Store} {policy : RetryPolicy} {trace rest : List Event}

theorem left (h : InOrder store policy (trace ++ rest)) : InOrder store policy trace where
  told := (tells_append.1 h.told).1
  unissued ticket told := h.unissued ticket (List.mem_append_left rest told)
  answers place answer := h.answers (by rw [place, List.append_assoc]; rfl) answer

/-- A ticket is that of one announcement. -/
theorem announcement_unique (h : InOrder store policy trace) {j k : JobId} {ticket : Ticket}
    {node other : Announcement} (one : .announced j ticket node ∈ trace)
    (two : .announced k ticket other ∈ trace) : k = j ∧ other = node := by
  have same := mem_unique (counts_tickets.nodup h.told) one two rfl rfl
  obtain ⟨rfl, -, rfl⟩ := Event.announced.inj same
  exact ⟨rfl, rfl⟩

/-- A new ticket has no answer yet. -/
theorem answered?_ne {j : JobId} {ticket : Ticket} {node : Announcement}
    (h : InOrder store policy (trace ++ [.announced j ticket node])) {e : Event}
    (told : e ∈ trace) : e.answered? ≠ some ticket := by
  intro answer
  obtain ⟨a, b, rfl⟩ := List.append_of_mem told
  obtain ⟨k, other, -, announced⟩ := h.left.answers rfl answer
  have early := (ne_elsewhere (counts_tickets.nodup h.told) rfl).1
  exact early _ (List.mem_append_left _ announced) rfl

end InOrder

theorem History.run_inOrder {store : Store} {policy : RetryPolicy} {moves : List Move}
    (feed : ∀ m ∈ moves, m.OfFeed) : InOrder store policy (run store policy moves).trace where
  told := (run_tells store policy moves).1
  unissued := issued_notMem feed
  answers := announced_before feed

/-- A ticket is answered once. -/
theorem History.answer_unique {store : Store} {policy : RetryPolicy} {moves : List Move}
    (feed : ∀ m ∈ moves, m.OfFeed) {e e' : Event} {ticket : Ticket}
    (told : e ∈ (run store policy moves).trace) (told' : e' ∈ (run store policy moves).trace)
    (answer : e.answered? = some ticket) (answer' : e'.answered? = some ticket) : e' = e := by
  have order : InOrder store policy (run store policy moves).trace := run_inOrder feed
  obtain ⟨j, node, tail, own, -, log⟩ := log_of_answered feed told answer
  obtain ⟨k, other, tail', own', -, log'⟩ := log_of_answered feed told' answer'
  have begins : ∀ {j node tail},
      logOf j (run store policy moves).trace = .announced j ticket node :: tail →
        .announced j ticket node ∈ (run store policy moves).trace :=
    fun log => mem_of_mem_logOf (log ▸ List.mem_cons_self)
  obtain ⟨rfl, rfl⟩ := order.announcement_unique (begins log) (begins log')
  exact (run_story store policy feed k).answer_unique (mem_logOf.2 ⟨told, own⟩)
    (mem_logOf.2 ⟨told', own'⟩) answer answer'

/-! ## 2. How a feed id stands -/

/-- How a feed id stands by the last word on it: with the number of its
ticket and with the id that it is tracked with. -/
def Stands (number : Option Nat) (id : Option DurableId) (trace : List Event) :
    Option Event → Prop
  | some (.announced j ticket node) =>
    (number = some ticket.number ∧
      ∀ e ∈ trace, e.Answers j ticket node → e = .uncreated j ticket none) ∨
    (number = none ∧ ∃ d previous, .installed j ticket node d previous ∈ trace ∧ id = some d) ∨
    (number = none ∧ ∃ cause, .uncreated j ticket (some cause) ∈ trace)
  | _ => number = none ∧ id = none

/-- An event that is no answer to the last word leaves how it stands. -/
theorem Stands.keep {number : Option Nat} {id : Option DurableId} {trace : List Event}
    {word : Option Event} {e : Event} (h : Stands number id trace word)
    (aside : ∀ j ticket node, word = some (.announced j ticket node) →
      number = some ticket.number → e.Answers j ticket node → e = .uncreated j ticket none) :
    Stands number id (trace ++ [e]) word := by
  cases word with
  | none => exact h
  | some w =>
    cases w with
    | announced j ticket node =>
      rcases h with ⟨pending, waits⟩ | ⟨settled, d, previous, installed, id⟩ |
        ⟨settled, cause, uncreated⟩
      · refine Or.inl ⟨pending, ?_⟩
        intro e' he' answer
        rcases List.mem_append.1 he' with old | new
        · exact waits e' old answer
        · cases List.mem_singleton.1 new
          exact aside j ticket node rfl pending answer
      · exact Or.inr (Or.inl ⟨settled, d, previous, List.mem_append_left _ installed, id⟩)
      · exact Or.inr (Or.inr ⟨settled, cause, List.mem_append_left _ uncreated⟩)
    | _ => exact h

/-- Who has a ticket has it from the announcement that is the last word. -/
theorem Stands.pending {n : Nat} {id : Option DurableId} {trace : List Event}
    {word : Option Event} (h : Stands (some n) id trace word) :
    ∃ j ticket node, word = some (.announced j ticket node) ∧ n = ticket.number := by
  cases word with
  | none => cases h.1
  | some w =>
    cases w with
    | announced j ticket node =>
      rcases h with ⟨pending, -⟩ | ⟨settled, -⟩ | ⟨settled, -⟩
      · exact ⟨j, ticket, node, rfl, Option.some.inj pending⟩
      · cases settled
      · cases settled
    | _ => cases h.1

/-- How a feed id stands after what has been told. -/
def Tracker.StandsFor (t : Tracker) (f : FeedId) (trace : List Event) : Prop :=
  Stands (t.registry.ticket? f) (t.registry.durableId? f) trace (lastWord f trace)

namespace InOrder

variable {store : Store} {policy : RetryPolicy} {trace : List Event}

/-- Whoever answers with the current ticket answers the last word. -/
theorem answers_lastWord {e : Event} (h : InOrder store policy (trace ++ [e])) {f : FeedId}
    (stands : ((Tracker.ofStore store policy).after trace).StandsFor f trace) {ticket : Ticket}
    (answer : e.answered? = some ticket) (own : ticket.feedId = f)
    (current : ((Tracker.ofStore store policy).after trace).registry.ticket? f =
      some ticket.number) :
    ∃ j node, lastWord f trace = some (.announced j ticket node) ∧ e.Answers j ticket node := by
  unfold Tracker.StandsFor at stands
  rw [current] at stands
  obtain ⟨j, ticket', node, word, number⟩ := stands.pending
  obtain ⟨announced, decides⟩ := mem_of_lastWord word
  have same : ticket' = ticket := by
    have feedId : ticket'.feedId = f := of_decide_eq_true decides
    cases ticket'
    cases ticket
    simp_all
  subst same
  obtain ⟨k, other, answers, before⟩ := h.answers rfl answer
  obtain ⟨rfl, rfl⟩ := h.left.announcement_unique announced before
  exact ⟨k, other, word, answers⟩

/-- An event that neither decides nor answers leaves how a feed id stands. -/
theorem standsFor_keep {e : Event} {t : Tracker} (fits : e.Fits t) {f : FeedId}
    (stands : t.StandsFor f trace) (decides : e.decides f = false) (ends : e.ends f = false)
    (same : e.ticket f (t.registry.ticket? f) = t.registry.ticket? f)
    (aside : ∀ j ticket node, lastWord f trace = some (.announced j ticket node) →
      t.registry.ticket? f = some ticket.number → e.Answers j ticket node →
        e = .uncreated j ticket none) :
    (t.follow e).StandsFor f (trace ++ [e]) := by
  have id : (t.follow e).registry.durableId? f = t.registry.durableId? f := by
    unfold Registry.durableId?
    rw [Tracker.get?_follow fits]
    exact Event.durableId_statistics ends _
  unfold Tracker.StandsFor
  rw [Tracker.ticket?_follow fits, same, id, lastWord_concat, decides]
  exact stands.keep aside

theorem standsFor_quiet {e : Event} {t : Tracker} (fits : e.Fits t) {f : FeedId}
    (stands : t.StandsFor f trace) (decides : e.decides f = false) (ends : e.ends f = false)
    (same : e.ticket f (t.registry.ticket? f) = t.registry.ticket? f)
    (quiet : e.answered? = none) : (t.follow e).StandsFor f (trace ++ [e]) := by
  refine standsFor_keep fits stands decides ends same ?_
  intro j ticket node _ _ answer
  exact absurd answer (Event.not_answers quiet j ticket node)

theorem standsFor_installed {t : Tracker} {f : FeedId} {j : JobId} {ticket : Ticket}
    {node : Announcement} {d : DurableId} {previous : Option Tracked}
    (fits : (Event.installed j ticket node d previous).Fits t) (own : ticket.feedId = f)
    (word : lastWord f trace = some (.announced j ticket node)) :
    (t.follow (.installed j ticket node d previous)).StandsFor f
      (trace ++ [.installed j ticket node d previous]) := by
  unfold Tracker.StandsFor Registry.durableId?
  rw [Tracker.ticket?_follow fits, Tracker.get?_follow fits, lastWord_concat, word]
  simp only [Event.ticket, Event.statistics, own, if_true]
  exact Or.inr (Or.inl ⟨rfl, d, previous, by simp, rfl⟩)

/-- How a feed id stands after one more event. -/
theorem standsFor_concat {e : Event} (h : InOrder store policy (trace ++ [e])) {f : FeedId}
    (stands : ((Tracker.ofStore store policy).after trace).StandsFor f trace) :
    (((Tracker.ofStore store policy).after trace).follow e).StandsFor f (trace ++ [e]) := by
  have fits := h.told.fits
  have answersLast := fun (ticket : Ticket) (answer : e.answered? = some ticket) =>
    h.answers_lastWord stands answer
  generalize (Tracker.ofStore store policy).after trace = t at stands fits answersLast ⊢
  cases e with
  | issued ticket => exact absurd (by simp) (h.unissued ticket)
  | announced j ticket node =>
    by_cases own : ticket.feedId = f
    · unfold Tracker.StandsFor
      rw [Tracker.ticket?_follow fits, lastWord_concat]
      simp only [Event.ticket, Event.decides, own, if_true, decide_true]
      refine Or.inl ⟨rfl, ?_⟩
      intro e' he' answer
      rcases List.mem_append.1 he' with old | new
      · exact absurd answer.answered? (h.answered?_ne old)
      · cases List.mem_singleton.1 new
        exact absurd answer (Event.not_answers rfl j ticket node)
    · exact standsFor_quiet fits stands (by simp [Event.decides, own]) rfl
        (by simp [Event.ticket, own]) rfl
  | removed g previous =>
    by_cases own : g = f
    · unfold Tracker.StandsFor Registry.durableId?
      rw [Tracker.ticket?_follow fits, Tracker.get?_follow fits, lastWord_concat]
      simp only [Event.ticket, Event.statistics, Event.decides, own, if_true, decide_true]
      exact ⟨rfl, rfl⟩
    · exact standsFor_quiet fits stands (by simp [Event.decides, own]) (by simp [Event.ends, own])
        (by simp [Event.ticket, own]) rfl
  | installed j ticket node d previous =>
    by_cases own : ticket.feedId = f
    · -- Only the last word has a current ticket, so this is its own record.
      have current := Registry.isCurrent_iff.1 fits.1
      rw [own] at current
      obtain ⟨k, other, word, ⟨d', rfl, -, rfl, -⟩ | ⟨cause, other⟩⟩ :=
        answersLast ticket rfl own current
      · exact standsFor_installed fits own word
      · cases other
    · refine standsFor_keep fits stands rfl (by simp [Event.ends, own])
        (by simp [Event.ticket, own]) ?_
      intro k t' other word _ answer
      obtain rfl : ticket = t' := Option.some.inj answer.answered?
      exact absurd (of_decide_eq_true (mem_of_lastWord word).2) own
  | superseded j ticket node d =>
    -- The last word waits with a current ticket, and this one is not current.
    refine standsFor_keep fits stands rfl rfl rfl ?_
    intro k t' other word current answer
    obtain rfl : ticket = t' := Option.some.inj answer.answered?
    have own : ticket.feedId = f := of_decide_eq_true (mem_of_lastWord word).2
    rw [← own] at current
    have stale := fits.1
    rw [Registry.isCurrent_iff.2 current] at stale
    cases stale
  | uncreated j ticket cause =>
    cases cause with
    | none =>
      refine standsFor_keep fits stands rfl rfl rfl ?_
      rintro k t' other - - (⟨d, created⟩ | ⟨cause, same⟩)
      · cases created
      · obtain ⟨rfl, rfl, -⟩ := Event.uncreated.inj same
        rfl
    | some cause =>
      by_cases own : ticket.feedId = f ∧ t.registry.ticket? f = some ticket.number
      · obtain ⟨k, other, word, ⟨d, created⟩ | ⟨cause', same⟩⟩ :=
          answersLast ticket rfl own.1 own.2
        · cases created
        obtain ⟨rfl, -, -⟩ := Event.uncreated.inj same
        unfold Tracker.StandsFor
        rw [Tracker.ticket?_follow fits, lastWord_concat, word]
        simp only [Event.ticket, own, and_self, if_true]
        exact Or.inr (Or.inr ⟨rfl, cause, by simp⟩)
      · refine standsFor_keep fits stands rfl rfl (by simp only [Event.ticket, if_neg own]) ?_
        intro k t' other word current answer
        obtain rfl : ticket = t' := Option.some.inj answer.answered?
        exact absurd ⟨of_decide_eq_true (mem_of_lastWord word).2, current⟩ own
  | _ => exact standsFor_quiet fits stands rfl rfl rfl rfl

/-- How every feed id stands in a run of the feed. -/
theorem standsFor (h : InOrder store policy trace) (f : FeedId) :
    ((Tracker.ofStore store policy).after trace).StandsFor f trace := by
  induction trace using List.reverseRecOn with
  | nil => exact ⟨rfl, rfl⟩
  | append_singleton trace e ih =>
    rw [Tracker.after_append]
    exact h.standsFor_concat (ih h.left)

end InOrder

/-! ## 3. Tracking follows the feed -/

namespace History

/-- Whether no record is being created any more, and every record that was
begun has been created. -/
structure Settled (h : History) : Prop where
  created : ∀ j ticket cause, .uncreated j ticket cause ∉ h.trace
  idle : ∀ j told ticket node, h.job? j ≠ some (.announcing told (.creating ticket node))

/-- Whether a feed id is tracked as the last word on it says. -/
structure FollowsFeed (h : History) (f : FeedId) : Prop where
  /-- If the last word is no announcement, nothing is tracked, and blocks
  and gauges are turned away. -/
  untracked : (∀ j ticket node, lastWord f h.trace ≠ some (.announced j ticket node)) →
    h.registry.get? f = none ∧ (∀ block, (h.registry.recordBlock f block).1 = false) ∧
      ∀ gauges, (h.registry.setGauges f gauges).1 = false
  tracked : h.Settled → ((h.registry.get? f).isSome = true ↔
    ∃ j ticket node, lastWord f h.trace = some (.announced j ticket node))
  /-- The id is that of the record which was created for the last word. -/
  durableId : h.Settled → ∀ j ticket node,
    lastWord f h.trace = some (.announced j ticket node) →
      ∃ d previous, .installed j ticket node d previous ∈ h.trace ∧
        h.registry.durableId? f = some d
  /-- The tickets fit words of 64 bits, with fewer than `2 ^ 64` announcements. -/
  words : h.registry.WordsSuffice (h.trace.filterMap Event.issued?)

variable {store : Store} {policy : RetryPolicy} {moves : List Move}

theorem run_standsFor (store : Store) (policy : RetryPolicy) (feed : ∀ m ∈ moves, m.OfFeed)
    (f : FeedId) :
    (run store policy moves).system.tracker.StandsFor f (run store policy moves).trace := by
  rw [(run_tells store policy moves).2]
  exact (run_inOrder feed).standsFor f

theorem untracked_of_lastWord (feed : ∀ m ∈ moves, m.OfFeed) {f : FeedId}
    (word : ∀ j ticket node,
      lastWord f (run store policy moves).trace ≠ some (.announced j ticket node)) :
    (run store policy moves).registry.get? f = none := by
  have stands := run_standsFor store policy feed f
  unfold Tracker.StandsFor at stands
  have none : (run store policy moves).registry.durableId? f = none := by
    cases last : lastWord f (run store policy moves).trace with
    | none =>
      rw [last] at stands
      exact stands.2
    | some e =>
      rw [last] at stands
      cases e with
      | announced j ticket node => exact absurd last (word j ticket node)
      | _ => exact stands.2
  exact Option.map_eq_none_iff.1 none

/-- In a settled run the last announcement has been installed. -/
theorem installed_of_lastWord (feed : ∀ m ∈ moves, m.OfFeed)
    (settled : (run store policy moves).Settled) {f : FeedId} {j : JobId} {ticket : Ticket}
    {node : Announcement}
    (word : lastWord f (run store policy moves).trace = some (.announced j ticket node)) :
    ∃ d previous, .installed j ticket node d previous ∈ (run store policy moves).trace ∧
      (run store policy moves).registry.durableId? f = some d := by
  have stands := run_standsFor store policy feed f
  unfold Tracker.StandsFor at stands
  rw [word] at stands
  rcases stands with ⟨-, waits⟩ | ⟨-, d, previous, installed, id⟩ | ⟨-, cause, uncreated⟩
  · obtain ⟨e, told, answer⟩ := exists_answer feed (mem_of_lastWord word).1
      (fun told => settled.idle j told ticket node)
    rw [waits e told answer] at told
    exact absurd told (settled.created j ticket none)
  · exact ⟨d, previous, installed, id⟩
  · exact absurd uncreated (settled.created j ticket (some cause))

/-- Whatever the order in which records are created, tracking follows the
feed: a late record never brings a removed node back, and in the end every
feed id is tracked with the record of its last announcement. -/
theorem tracking_follows_feed (store : Store) (policy : RetryPolicy) {moves : List Move}
    (feed : ∀ m ∈ moves, m.OfFeed) (f : FeedId) : (run store policy moves).FollowsFeed f where
  untracked word := by
    have none := untracked_of_lastWord feed word
    refine ⟨none, fun block => ?_, fun gauges => ?_⟩
    · rw [Registry.recordBlock_fst, none]
      rfl
    · rw [Registry.setGauges_fst, none]
      rfl
  tracked settled := by
    constructor
    · intro found
      refine Classical.byContradiction fun other => ?_
      rw [untracked_of_lastWord feed fun j ticket node word =>
        other ⟨j, ticket, node, word⟩] at found
      cases found
    · rintro ⟨j, ticket, node, word⟩
      obtain ⟨d, previous, -, id⟩ := installed_of_lastWord feed settled word
      obtain ⟨s, found, -⟩ := Option.map_eq_some_iff.1 id
      rw [found]
      rfl
  durableId settled j ticket node := installed_of_lastWord feed settled
  words := run_wordsSuffice store policy moves

/-- A node is removed and announced again while its record is created, and
the second record is there first. -/
def exampleOvertaken : List Move :=
  [.message 0 (.addedNode (exampleNode 7 none)), .message 0 (.removedNode 7),
    .message 0 (.addedNode (exampleNode 7 none)), .step 1 none, .step 0 none]

theorem tracking_follows_feed_exampleOvertaken :
    (∀ m ∈ exampleOvertaken, m.OfFeed) ∧
      (run (.memory .empty) .default exampleOvertaken).FollowsFeed 7 ∧
      (run (.memory .empty) .default exampleOvertaken).registry.durableId? 7 = some 1 := by
  have feed : ∀ m ∈ exampleOvertaken, m.OfFeed := by
    simp [exampleOvertaken, Move.OfFeed]
  exact ⟨feed, tracking_follows_feed _ _ feed 7, by decide⟩

end History

end NodeWatch
