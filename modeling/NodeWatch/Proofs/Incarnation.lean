/-
NodeWatch.Proofs.Incarnation — whose record a location is written to.

A feed id is used again after its node has gone, and it may be announced
again while its node is there.  A location that comes in is for the node
of the last announcement, but it names the node by the feed id only, and
the feed id is looked up when the job comes to it.

Main statement: the location is written to the record that its feed id was
tracked with when the job found it.  This is the record of the announcement
that it was for just when that record was installed by then, and has been
neither removed nor replaced (`located_record`).  Otherwise it is an earlier
one, while the record was not there yet (`location_strays`), or a later one,
after the job had to wait.
-/
import Mathlib.Data.List.Basic
import NodeWatch.Proofs.FeedOrder
import NodeWatch.Proofs.Placing

namespace NodeWatch

/-! ## 1. Earlier and later announcements -/

/-- The last word is not before any other announcement. -/
theorem InOrder.number_le_of_lastWord {store : Store} {policy : RetryPolicy} {trace : List Event}
    (h : InOrder store policy trace) {f : FeedId} {j k : JobId} {ticket other : Ticket}
    {node node' : Announcement} (word : lastWord f trace = some (.announced k ticket node))
    (announced : .announced j other node' ∈ trace) (own : other.feedId = f) :
    other.number ≤ ticket.number := by
  have told := h.told
  obtain ⟨a, b, rfl⟩ := List.append_of_mem announced
  obtain ⟨fits, later⟩ := (tells_append.1 told).2
  have decides : (Event.announced j other node').decides f = true := decide_eq_true own
  rw [lastWord, List.filter_append, List.filter_cons_of_pos decides,
    List.getLast?_append_cons] at word
  rcases List.mem_cons.1 (List.mem_of_getLast? word) with same | after
  · cases same
    exact Nat.le_refl _
  · have issued : ticket ∈ b.filterMap Event.issued? :=
      List.mem_filterMap.2 ⟨_, (List.mem_filter.1 after).1, rfl⟩
    have below := (counts_tickets.bounds later issued).1
    have next := (counts_tickets.next fits rfl).2
    omega

/-- What is installed with a newer ticket than that of the last word has
been announced after it. -/
theorem InOrder.announced_later {store : Store} {policy : RetryPolicy} {a b : List Event}
    {e : Event} {k m : JobId} {ticket other : Ticket} {node node' : Announcement} {d : DurableId}
    {previous : Option Tracked} (h : InOrder store policy (a ++ e :: b))
    (word : lastWord other.feedId a = some (.announced k ticket node))
    (aside : e.work ≠ .announcing)
    (installed : .installed m other node' d previous ∈ a ++ e :: b)
    (later : ticket.number < other.number) : .announced m other node' ∈ b := by
  obtain ⟨c, c', place⟩ := List.append_of_mem installed
  obtain ⟨i, n, ⟨d', rfl, -, rfl, -⟩ | ⟨cause, uncreated⟩, announced⟩ := h.answers place rfl
  · have told : .announced m other node' ∈ a ++ e :: b := by
      rw [place]
      exact List.mem_append_left _ announced
    rcases List.mem_append.1 told with early | late
    · have le := h.left.number_le_of_lastWord word early rfl
      omega
    · rcases List.mem_cons.1 late with rfl | after
      · exact absurd rfl aside
      · exact after
  · cases uncreated

/-! ## 2. Records that live -/

/-- Whether the record of an announcement has been installed, and neither
removed nor replaced since. -/
def Lives (trace : List Event) (j : JobId) (ticket : Ticket) (node : Announcement)
    (d : DurableId) : Prop :=
  ∃ before previous life, trace = before ++ .installed j ticket node d previous :: life ∧
    ∀ e ∈ life, e.ends ticket.feedId = false

theorem Lives.mem {trace : List Event} {j : JobId} {ticket : Ticket} {node : Announcement}
    {d : DurableId} (lives : Lives trace j ticket node d) :
    ∃ previous, .installed j ticket node d previous ∈ trace := by
  obtain ⟨before, previous, life, rfl, -⟩ := lives
  exact ⟨previous, by simp⟩

/-- If a record lives, then it is that of an announcement just when it
lives as that of the announcement. -/
theorem Lives.creates_iff {store : Store} {policy : RetryPolicy} {p q : List Event} {j k : JobId}
    {ticket other : Ticket} {node node' : Announcement} {d : DurableId}
    (told : Tells (.ofStore store policy) (p ++ q)) (lives : Lives p k other node' d) :
    (∃ e ∈ p ++ q, e.Creates j ticket node d) ↔ Lives p j ticket node d := by
  constructor
  · rintro ⟨e, member, created⟩
    obtain ⟨previous, installed⟩ := lives.mem
    -- An id is created once, so `e` is this installation.
    obtain rfl := mem_unique (counts_ids.nodup told) member (List.mem_append_left q installed)
      created.created? rfl
    obtain ⟨rfl, rfl, rfl, -⟩ := created
    exact lives
  · intro own
    obtain ⟨previous, installed⟩ := own.mem
    exact ⟨_, List.mem_append_left q installed, rfl, rfl, rfl, rfl⟩

/-- What the record `d` that a location was written to has to do with the
announcement that the location was for.  When the record was found, `p` had
been told; `b` has been told after the location came in. -/
structure Lands (trace p b : List Event) (j : JobId) (ticket : Ticket) (node : Announcement)
    (d : DurableId) : Prop where
  /-- It is the record of some announcement of the same feed id, of an
  earlier one only if no record was there, and of a later one only if that
  came after the location. -/
  owner : ∃ k other node', other.feedId = ticket.feedId ∧ Lives p k other node' d ∧
    (other.number < ticket.number → ∀ d' previous, .installed j ticket node d' previous ∉ p) ∧
    (ticket.number < other.number → .announced k other node' ∈ b)
  exactly : (∃ e ∈ trace, e.Creates j ticket node d) ↔ Lives p j ticket node d

/-- Whether every location is written to the record of the announcement
that is the last word when the location comes in. -/
def LandsAlways (trace : List Event) : Prop :=
  ∀ a b j f l k ticket node d l' done, trace = a ++ .located j f l :: b →
    lastWord f a = some (.announced k ticket node) → .placed j d l' done ∈ trace →
      ∃ e ∈ trace, e.Creates k ticket node d

/-- A location that is set is the one that came in, and its node has been
found. -/
theorem Story.looked {j k : JobId} {log : List Event} {left : Option Job} {f : FeedId}
    {l l' : Location} {d : DurableId} {done : Bool} (h : Story j log left)
    (located : .located j f l ∈ log) (placed : .placed k d l' done ∈ log) :
    l' = l ∧ .looked j f (some d) ∈ log := by
  rcases h.placing with quiet | ⟨head, d', l'', done', result, rfl, before⟩
  · exact absurd rfl (quiet _ placed)
  · have same : Event.placed k d l' done = .placed j d' l'' done' := by
      rcases List.mem_append.1 placed with early | late
      · exact absurd rfl (before.work_ne _ early)
      · rcases List.mem_cons.1 late with same | ended
        · exact same
        · cases List.mem_singleton.1 ended
    cases same
    have inHead : .located j f l ∈ head := by
      rcases List.mem_append.1 located with early | late
      · exact early
      · rcases List.mem_cons.1 late with same | ended
        · cases same
        · cases List.mem_singleton.1 ended
    cases before with
    | created created carried =>
      rcases List.mem_cons.1 inHead with same | second
      · cases same
      · cases List.mem_singleton.1 second
        cases created
    | @found g tries tried =>
      rcases List.mem_cons.1 inHead with same | second
      · cases same
        exact ⟨rfl, by simp⟩
      · rcases List.mem_append.1 second with look | last
        · cases tried _ look
        · cases List.mem_singleton.1 last

namespace InOrder

variable {store : Store} {policy : RetryPolicy} {trace : List Event}

/-- The node that is found may be that of an earlier announcement only if
the later one has not been installed. -/
theorem not_installed_of_earlier {p : List Event} {k j : JobId} {other ticket : Ticket}
    {node' node : Announcement} {d d' : DurableId} {previous : Option Tracked}
    (h : InOrder store policy p) (lives : Lives p k other node' d)
    (own : other.feedId = ticket.feedId) (earlier : other.number < ticket.number) :
    .installed j ticket node d' previous ∉ p := by
  obtain ⟨before, replaced, life, rfl, alive⟩ := lives
  intro told
  rcases List.mem_append.1 told with early | late
  · -- The current ticket is that of the last word, so `other` would not be earlier.
    have order : InOrder store policy before := h.left
    obtain ⟨a, b, place⟩ := List.append_of_mem early
    obtain ⟨i, n, -, announced⟩ := order.answers place rfl
    have current := Registry.isCurrent_iff.1 (Tells.fits h.told).1
    have stands := order.standsFor other.feedId
    unfold Tracker.StandsFor at stands
    rw [current] at stands
    obtain ⟨i', last, n', word, number⟩ := stands.pending
    have inTrace : .announced i ticket n ∈ before := by
      rw [place]
      exact List.mem_append_left _ announced
    have le := order.number_le_of_lastWord word inTrace own.symm
    omega
  · rcases List.mem_cons.1 late with same | after
    · cases same
      omega
    · -- An installation ends the one before it.
      have kept := alive _ after
      simp [Event.ends, own] at kept

end InOrder

namespace History

variable {store : Store} {policy : RetryPolicy} {moves : List Move}

/-- The location of a job goes to the record that its feed id was tracked
with when the job found it: to the record of the announcement it was for
just when that lived. -/
theorem located_record (store : Store) (policy : RetryPolicy) {moves : List Move}
    (feed : ∀ m ∈ moves, m.OfFeed) {a b : List Event} {j k : JobId} {f : FeedId}
    {l l' : Location} {ticket : Ticket} {node : Announcement} {d : DurableId} {done : Bool}
    (place : (run store policy moves).trace = a ++ .located j f l :: b)
    (word : lastWord f a = some (.announced k ticket node))
    (placed : .placed j d l' done ∈ (run store policy moves).trace) :
    l' = l ∧ ∃ p q, (run store policy moves).trace = p ++ .looked j f (some d) :: q ∧
      Lands (run store policy moves).trace p b k ticket node d := by
  have order : InOrder store policy (run store policy moves).trace := run_inOrder feed
  have located : .located j f l ∈ (run store policy moves).trace := place ▸ by simp
  obtain ⟨same, found⟩ := (run_story store policy feed j).looked (mem_logOf.2 ⟨located, rfl⟩)
    (mem_logOf.2 ⟨placed, rfl⟩)
  obtain ⟨p, q, split⟩ := List.append_of_mem (mem_of_mem_logOf found)
  refine ⟨same, p, q, split, ?_⟩
  have whole := order.told
  rw [split] at whole
  obtain ⟨before, m, other, node', previous, life, shape, rfl, alive⟩ := whole.installed_of_looked
  have lives : Lives p m other node' d := ⟨before, previous, life, shape, alive⟩
  have own : ticket.feedId = other.feedId := of_decide_eq_true (mem_of_lastWord word).2
  have exactly : (∃ e ∈ (run store policy moves).trace, e.Creates k ticket node d) ↔
      Lives p k ticket node d := by
    rw [split]
    exact lives.creates_iff whole
  refine ⟨⟨m, other, node', own.symm, lives, ?_, ?_⟩, exactly⟩
  · intro earlier d' replaced
    have sofar : InOrder store policy p := InOrder.left (split ▸ order)
    exact sofar.not_installed_of_earlier lives own.symm earlier
  · intro later
    obtain ⟨previous, installed⟩ := lives.mem
    have told : .installed m other node' d previous ∈ (run store policy moves).trace := by
      rw [split]
      exact List.mem_append_left _ installed
    rw [place] at order told
    exact order.announced_later word (by simp [Event.work]) told later

/-- A location comes in while the record is created, and has to wait; its
node is removed and another one is announced. -/
def exampleOutlived : List Move :=
  [.message 0 (.addedNode (exampleNode 7 none)),
    .message 0 (.locatedNode 7 (exampleLocation "Oslo")), .step 1 none,
    .message 0 (.removedNode 7), .step 0 none, .message 0 (.addedNode (exampleNode 7 none)),
    .step 2 none, .step 1 none, .step 1 none]

theorem located_record_exampleOutlived :
    (∀ m ∈ exampleOutlived, m.OfFeed) ∧ ∃ a b p ticket node,
      (run (.memory .empty) .default exampleOutlived).trace =
          a ++ .located 1 7 (exampleLocation "Oslo") :: b ∧
        lastWord 7 a = some (.announced 0 ticket node) ∧
        Lands (run (.memory .empty) .default exampleOutlived).trace p b 0 ticket node 2 := by
  have feed : ∀ m ∈ exampleOutlived, m.OfFeed := by
    simp [exampleOutlived, Move.OfFeed]
  have trace : (run (.memory .empty) .default exampleOutlived).trace =
    [.announced 0 _ _] ++ .located 1 _ _ :: [.looked 1 _ none, .removed _ none,
      .superseded 0 _ _ 1, .ended 0 _, .announced 2 _ _, .installed 2 _ _ 2 none, .ended 2 _,
      .looked 1 _ (some 2), .placed 1 2 (exampleLocation "Oslo") true, .ended 1 _] := rfl
  have placed : .placed 1 2 (exampleLocation "Oslo") true ∈
      (run (.memory .empty) .default exampleOutlived).trace := by
    rw [trace]
    simp
  obtain ⟨-, p, q, -, lands⟩ := located_record _ _ feed trace rfl placed
  exact ⟨feed, _, _, p, _, _, trace, rfl, lands⟩

/-- A node is announced again, and a location comes in before its new
record is there. -/
def exampleReplaced : List Move :=
  [.message 0 (.addedNode (exampleNode 7 none)), .step 0 none,
    .message 0 (.addedNode (exampleNode 7 none)),
    .message 0 (.locatedNode 7 (exampleLocation "Oslo")), .step 2 none, .step 2 none, .step 1 none]

/-- The location goes to the record that is about to be replaced. -/
theorem location_strays :
    (∀ m ∈ exampleReplaced, m.OfFeed) ∧
      Unrefused (run (.memory .empty) .default exampleReplaced).trace ∧
      ¬ LandsAlways (run (.memory .empty) .default exampleReplaced).trace := by
  have trace : (run (.memory .empty) .default exampleReplaced).trace =
    [.announced 0 _ _, .installed 0 _ _ 1 none, .ended 0 _, .announced 1 _ _] ++
      .located 2 _ _ :: [.looked 2 _ (some 1), .placed 2 1 (exampleLocation "Oslo") true,
        .ended 2 _, .installed 1 _ _ 2 (some _), .ended 1 _] := rfl
  refine ⟨by simp [exampleReplaced, Move.OfFeed], ⟨?_, ?_⟩, ?_⟩
  · simp [trace]
  · simp [trace]
  · intro always
    obtain ⟨e, told, created⟩ :=
      always _ _ _ _ _ _ _ _ 1 (exampleLocation "Oslo") true trace rfl (by simp [trace])
    have log : logOf 1 (run (.memory .empty) .default exampleReplaced).trace =
      [.announced 1 _ _, .installed 1 _ _ 2 (some _), .ended 1 _] := rfl
    have inLog := mem_logOf.2 ⟨told, created.job?⟩
    rw [log] at inLog
    rcases List.mem_cons.1 inLog with rfl | inLog
    · cases created
    · rcases List.mem_cons.1 inLog with rfl | inLog
      · exact absurd created.2.2.2 (by decide)
      · cases List.mem_singleton.1 inLog
        cases created

end History

end NodeWatch
