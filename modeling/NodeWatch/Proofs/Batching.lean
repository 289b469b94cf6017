/-
NodeWatch.Proofs.Batching — how entries are cut into frames does not matter.

A frame holds entries, each a code and a payload, which may be any values
(`Holds`).  A session that takes a frame takes its entries one by one, each as
if it had come alone, and stops at the first fault (`receive_of_holds`).  So a
row of frames comes to what its entries come to, however they are cut, and so
does one frame that holds them all.

Main statement: for every row of frames and every frame that holds the entries
of all of them, on every timeline, both come to the same: the same fault or
none, and the same timeline, which is the session, the tracker, the notices and
the queue of tasks.  A session stops just at a pong that its keep-alive
rejects, as the entries before it have left it; and an entry that cannot be
decoded costs nothing but its own notice (`batching_irrelevant`).  No task runs
while frames are taken: the jobs only enter the queue.

At another instant the entries come to the same but for one thing: the round
trip in the notice of a pong is counted up to that instant (`Reaction.retimed`).
So it is if each frame of a row comes in at an instant of its own
(`receiveEach_of_holds`).
-/
import Mathlib.Data.List.Forall2
import NodeWatch.Timeline.Basic

namespace NodeWatch

/-! ## 1. What a frame holds -/

namespace Message

/-- An entry of a frame.  Code and payload may be any values. -/
structure Entry where
  code : Json
  payload : Json

/-- What an entry decodes to. -/
def Entry.message (e : Entry) : Except DecodeError Message :=
  ofEntry e.code e.payload

/-- The elements of a frame that holds some entries. -/
def elements (entries : List Entry) : List Json :=
  entries.flatMap fun e => [e.code, e.payload]

/-- Whether a frame spells just these entries. -/
def Holds (frame : String) (entries : List Entry) : Prop :=
  Json.parseList frame = .ok (elements entries)

theorem elements_cons (e : Entry) (entries : List Entry) :
    elements (e :: entries) = e.code :: e.payload :: elements entries :=
  rfl

theorem length_elements (entries : List Entry) :
    (elements entries).length = 2 * entries.length := by
  induction entries with
  | nil => rfl
  | cons e rest ih =>
    simp only [elements_cons, List.length_cons, ih]
    omega

theorem ofEntries_elements (entries : List Entry) :
    ofEntries (elements entries) = entries.map Entry.message := by
  induction entries with
  | nil => rfl
  | cons e rest ih =>
    rw [elements_cons, ofEntries, ih]
    rfl

/-- A frame of entries decodes to what each of them decodes to. -/
theorem ofFrame_of_holds {frame : String} {entries : List Entry} (holds : Holds frame entries) :
    ofFrame frame = .ok (entries.map Entry.message) := by
  have even : (elements entries).length % 2 = 0 := by
    rw [length_elements]
    omega
  rw [ofFrame, holds]
  simp only [even, if_true, ofEntries_elements]

end Message

open Message (Entry Holds)

/-! ## 2. Reactions -/

/-- A notice with another round trip, if it tells one. -/
def Notice.retimed (roundTrip : Nat) : Notice → Notice
  | .pongTaken label _ => .pongTaken label roundTrip
  | n => n

/-- For how long the unanswered ping has been on its way, if there is one. -/
def KeepAlive.since (k : KeepAlive) (now : Nat) : Nat :=
  now - (k.outstanding.map Prod.snd).getD now

/-- Whether a round trip is that of a pong which answers at the instant `now`. -/
def KeepAlive.Spans (k : KeepAlive) (now roundTrip : Nat) : Prop :=
  ∀ ping ∈ k.outstanding, roundTrip = now - ping.2

theorem KeepAlive.spans_since (k : KeepAlive) (now : Nat) : k.Spans now (k.since now) := by
  rintro ping outstanding
  rw [since, Option.mem_def.1 outstanding]
  rfl

/-- The notices of a row of frames, each with the round trip of its instant. -/
def Notice.retimedEach (awaited : KeepAlive) (instants : List Nat) (late : List (List Notice)) :
    List Notice :=
  (List.zipWith (fun now told => told.map (retimed (awaited.since now))) instants late).flatten

namespace Reaction

/-- A reaction in which nothing has happened. -/
def opened (tracker : Tracker) (session : Session) : Reaction :=
  { tracker, session }

/-- A reaction that comes after another one. -/
def after (earlier r : Reaction) : Reaction :=
  { r with
    notices := earlier.notices ++ r.notices
    jobs := earlier.jobs ++ r.jobs
    sent := earlier.sent ++ r.sent }

/-- What a message leads to depends on the tracker and the session alone; its
notices and jobs come after those that are there. -/
theorem dispatch_eq_after (now : Nat) (r : Reaction) (running : r.fault = none)
    (message : Message) :
    r.dispatch now message = r.after ((opened r.tracker r.session).dispatch now message) := by
  obtain ⟨tracker, session, notices, jobs, sent, fault⟩ := r
  obtain rfl : fault = none := running
  cases message with
  | addedNode node => simp [dispatch, announce_eq, after, opened]
  | pong label =>
    cases answer : session.keepAlive.pong label now <;>
      simp [dispatch, pong, notice, withKeepAlive, after, opened, answer]
  | _ => simp [dispatch, noticeIf, notice, begin, withRegistry, after, opened]

/-- A message that is no pong brings no fault, sends nothing, and leaves the
keep-alive as it was. -/
theorem dispatch_of_no_pong (now : Nat) (r : Reaction) {message : Message}
    (other : ∀ label, message ≠ .pong label) :
    (r.dispatch now message).fault = r.fault ∧ (r.dispatch now message).sent = r.sent ∧
      (r.dispatch now message).session.keepAlive = r.session.keepAlive := by
  cases message with
  | pong label => exact absurd rfl (other label)
  | addedNode node => simp [dispatch, announce_eq]
  | _ => exact ⟨rfl, rfl, rfl⟩

theorem take_eq_after (now : Nat) (r : Reaction) (running : r.fault = none)
    (entry : Except DecodeError Message) :
    r.take now entry = r.after ((opened r.tracker r.session).take now entry) := by
  have opens : (opened r.tracker r.session).fault = none := rfl
  cases entry with
  | ok message => simpa [take, running, opens] using dispatch_eq_after now r running message
  | error cause => simp [take, notice, after, opened, running]

theorem take_of_fault (now : Nat) (r : Reaction) (fault : FeedError)
    (stopped : r.fault = some fault) (entry : Except DecodeError Message) :
    r.take now entry = r := by
  simp [take, stopped]

theorem foldl_take_of_fault (now : Nat) (r : Reaction) (fault : FeedError)
    (stopped : r.fault = some fault) (entries : List (Except DecodeError Message)) :
    entries.foldl (take now) r = r := by
  induction entries with
  | nil => rfl
  | cons entry rest ih => rw [List.foldl_cons, take_of_fault now r fault stopped, ih]

/-- The same reaction, with another round trip in its notices. -/
def retimed (roundTrip : Nat) (r : Reaction) : Reaction :=
  { r with notices := r.notices.map (Notice.retimed roundTrip) }

section Retimed

variable (roundTrip : Nat) (r : Reaction)

@[simp] theorem retimed_tracker : (r.retimed roundTrip).tracker = r.tracker := rfl

@[simp] theorem retimed_session : (r.retimed roundTrip).session = r.session := rfl

@[simp] theorem retimed_fault : (r.retimed roundTrip).fault = r.fault := rfl

theorem notice_retimed (n : Notice) :
    (r.retimed roundTrip).notice (n.retimed roundTrip) = (r.notice n).retimed roundTrip := by
  simp [notice, retimed]

theorem noticeIf_retimed (reason : Bool) (n : Notice) :
    (r.retimed roundTrip).noticeIf reason (n.retimed roundTrip) =
      (r.noticeIf reason n).retimed roundTrip := by
  cases reason <;> simp [noticeIf, retimed]

theorem announce_retimed (node : Announcement) :
    (r.retimed roundTrip).announce node = (r.announce node).retimed roundTrip := by
  cases awaiting : r.session.awaitingFirstNode <;>
    simp [announce_eq, retimed, Notice.retimed, awaiting]

end Retimed

section Later

variable {roundTrip later : Nat} {r : Reaction}
  (spans : r.session.keepAlive.Spans later roundTrip) (now : Nat)

include spans

/-- At another instant a pong is taken or rejected alike, and its round trip is
that of the instant. -/
theorem pong_retimed (label : String) :
    (r.retimed roundTrip).pong later label = (r.pong now label).retimed roundTrip := by
  unfold pong KeepAlive.pong
  rw [retimed_session]
  cases outstanding : r.session.keepAlive.outstanding with
  | none => rfl
  | some ping =>
    have trip : roundTrip = later - ping.2 := spans ping outstanding
    by_cases echoes : KeepAlive.pongId? label = some ping.1 <;>
      simp [echoes, trip, notice, withKeepAlive, retimed, Notice.retimed]

/-- An entry leads to the same at another instant, but for the round trip of a
pong. -/
theorem take_retimed (entry : Except DecodeError Message) :
    (r.retimed roundTrip).take later entry = (r.take now entry).retimed roundTrip := by
  unfold take
  rw [retimed_fault]
  split
  · rfl
  cases entry with
  | error cause => exact notice_retimed _ r (.messageSkipped cause)
  | ok message =>
    cases message with
    | feedVersion version => exact notice_retimed _ r (.feedVersion version)
    | subscribedTo label => exact notice_retimed _ r (.subscribed label)
    | addedNode node => exact announce_retimed _ r node
    | removedNode feedId => exact noticeIf_retimed _ (r.withRegistry _) _ (.nodeLeft feedId)
    | staleNode feedId => exact notice_retimed _ r (.nodeStale feedId)
    | locatedNode feedId location => rfl
    | importedBlock feedId block =>
      exact noticeIf_retimed _ (r.withRegistry _) _ (.blockDropped feedId block.number)
    | nodeStats feedId gauges =>
      exact noticeIf_retimed _ (r.withRegistry _) _ (.gaugesDropped feedId)
    | pong label => exact pong_retimed spans now label
    | ignored action => exact notice_retimed _ r (.actionIgnored action)
    | unknown code => exact notice_retimed _ r (.codeIgnored code)

/-- No entry sends a ping, so a round trip goes on to be that of a pong. -/
theorem spans_take (entry : Except DecodeError Message) :
    (r.take now entry).session.keepAlive.Spans later roundTrip := by
  unfold take
  split
  · exact spans
  cases entry with
  | error cause => exact spans
  | ok message =>
    by_cases answer : ∃ label, message = .pong label
    · obtain ⟨label, rfl⟩ := answer
      simp only [dispatch, pong, KeepAlive.pong]
      cases outstanding : r.session.keepAlive.outstanding with
      | none => exact spans
      | some ping =>
        by_cases echoes : KeepAlive.pongId? label = some ping.1
        · simp [echoes, notice, withKeepAlive, KeepAlive.Spans]
        · simpa [echoes] using spans
    · obtain ⟨-, -, keepAlive⟩ := dispatch_of_no_pong now r (not_exists.1 answer)
      rw [keepAlive]
      exact spans

theorem spans_foldl_take (entries : List (Except DecodeError Message)) :
    (entries.foldl (take now) r).session.keepAlive.Spans later roundTrip := by
  induction entries generalizing r with
  | nil => exact spans
  | cons entry rest ih => exact ih (spans_take spans now entry)

theorem foldl_take_retimed (entries : List (Except DecodeError Message)) :
    entries.foldl (take later) (r.retimed roundTrip) =
      (entries.foldl (take now) r).retimed roundTrip := by
  induction entries generalizing r with
  | nil => rfl
  | cons entry rest ih =>
    rw [List.foldl_cons, List.foldl_cons, take_retimed spans now, ih (spans_take spans now entry)]

end Later

/-- Only a pong can bring a fault. -/
theorem take_fault (now : Nat) (r : Reaction) (running : r.fault = none)
    (entry : Except DecodeError Message) (fault : FeedError) :
    (r.take now entry).fault = some fault ↔
      ∃ label, entry = .ok (.pong label) ∧
        r.session.keepAlive.pong label now = .error fault := by
  cases entry with
  | error cause => simp [take, notice, running]
  | ok message =>
    by_cases answer : ∃ label, message = .pong label
    · obtain ⟨label, rfl⟩ := answer
      cases rejected : r.session.keepAlive.pong label now <;>
        simp [take, running, dispatch, pong, notice, withKeepAlive, rejected]
    · obtain ⟨none, -, -⟩ := dispatch_of_no_pong now r (not_exists.1 answer)
      simp only [take, running, none, Option.isSome_none, Bool.false_eq_true, if_false,
        reduceCtorEq, false_iff]
      rintro ⟨label, pong, -⟩
      exact answer ⟨label, Except.ok.inj pong⟩

end Reaction

/-! ## 3. Frames and entries on a timeline -/

namespace Timeline

/-- The timeline with another time on the clock. -/
def onClock (t : Timeline) (now : Nat) : Timeline :=
  { t with now }

/-- The timeline after a reaction.  The jobs enter the queue. -/
def absorb (t : Timeline) (r : Reaction) : Timeline :=
  (t.react fun _ => r).2

/-- A frame comes in: what has ended the session, if anything has, and the
timeline after it. -/
def receive (t : Timeline) (frame : String) : Option FeedError × Timeline :=
  let (r, t') := t.react fun r => r.takeFrame t.now frame
  (r.fault, t')

/-- Frames come in one after the other, until one ends the session. -/
def receiveAll (t : Timeline) : List String → Option FeedError × Timeline
  | [] => (none, t)
  | frame :: frames =>
    match t.receive frame with
    | (none, t) => t.receiveAll frames
    | stopped => stopped

/-- Frames come in one after the other, each at its own instant, until one ends
the session. -/
def receiveEach (t : Timeline) : List (Nat × String) → Option FeedError × Timeline
  | [] => (none, t)
  | (now, frame) :: frames =>
    match (t.onClock now).receive frame with
    | (none, t) => t.receiveEach frames
    | stopped => stopped

/-- One entry is taken alone. -/
def enter (t : Timeline) (e : Entry) : Option FeedError × Timeline :=
  let (r, t') := t.react fun r => r.take t.now e.message
  (r.fault, t')

/-- Entries are taken one after the other, until one ends the session. -/
def enterAll (t : Timeline) : List Entry → Option FeedError × Timeline
  | [] => (none, t)
  | e :: entries =>
    match t.enter e with
    | (none, t) => t.enterAll entries
    | stopped => stopped

/-- The timeline with some notices before its own. -/
def toldBefore (t : Timeline) (notices : List Notice) : Timeline :=
  { t with notices := notices ++ t.notices }

/-! ### The queue -/

theorem foldl_spawn (jobs : List Job) (t : Timeline) :
    jobs.foldl (fun t job => (t.spawn (.job job)).2) t =
      { t with
        spawned := t.spawned + jobs.length
        ready := t.ready ++ jobs.mapIdx fun i job => ⟨t.spawned + i, .job job, none⟩ } := by
  induction jobs generalizing t with
  | nil => simp
  | cons job rest ih =>
    rw [List.foldl_cons, ih]
    simp [spawn, List.mapIdx_cons, Nat.add_comm, Nat.add_left_comm]

theorem absorb_eq (t : Timeline) (r : Reaction) :
    t.absorb r =
      { t with
        tracker := r.tracker
        session := r.session
        notices := t.notices ++ r.notices
        spawned := t.spawned + r.jobs.length
        ready := t.ready ++ r.jobs.mapIdx fun i job => ⟨t.spawned + i, .job job, none⟩ } := by
  simp only [absorb, react, foldl_spawn]

theorem absorb_opened (t : Timeline) : t.absorb (.opened t.tracker t.session) = t := by
  simp [absorb_eq, Reaction.opened]

/-- Two reactions one after the other are the reaction of both. -/
theorem absorb_absorb (t : Timeline) (earlier r : Reaction) :
    (t.absorb earlier).absorb r = t.absorb (earlier.after r) := by
  simp [absorb_eq, Reaction.after, List.mapIdx_append, Nat.add_assoc, Nat.add_comm,
    Nat.add_left_comm]

theorem absorb_toldBefore (t : Timeline) (r : Reaction) (notices : List Notice) :
    (t.toldBefore notices).absorb r = (t.absorb r).toldBefore notices := by
  simp [absorb_eq, toldBefore]

/-! ### One entry -/

theorem enter_eq (t : Timeline) (e : Entry) :
    t.enter e =
      (((Reaction.opened t.tracker t.session).take t.now e.message).fault,
        t.absorb ((Reaction.opened t.tracker t.session).take t.now e.message)) :=
  rfl

/-- An entry that follows on a reaction belongs to it. -/
theorem enter_absorb (t : Timeline) (r : Reaction) (running : r.fault = none) (e : Entry) :
    (t.absorb r).enter e = ((r.take t.now e.message).fault, t.absorb (r.take t.now e.message)) := by
  rw [Reaction.take_eq_after t.now r running, ← absorb_absorb, enter_eq]
  simp [absorb_eq, Reaction.after]

/-- A pong that the keep-alive rejects changes nothing. -/
theorem absorb_rejected (t : Timeline) (e : Entry) (label : String)
    (pong : e.message = .ok (.pong label)) (fault : FeedError)
    (rejected : t.session.keepAlive.pong label t.now = .error fault) :
    t.absorb ((Reaction.opened t.tracker t.session).take t.now e.message) = t := by
  have same : (Reaction.opened t.tracker t.session).take t.now e.message =
      { Reaction.opened t.tracker t.session with fault := some fault } := by
    simp [pong, Reaction.take, Reaction.opened, Reaction.dispatch, Reaction.pong, rejected]
  rw [same]
  exact absorb_opened t

/-- A session stops just at a pong that its keep-alive rejects, and stays as it
was. -/
theorem enter_stops (t : Timeline) (e : Entry) (fault : FeedError) (t' : Timeline) :
    t.enter e = (some fault, t') ↔
      t' = t ∧ ∃ label, e.message = .ok (.pong label) ∧
        t.session.keepAlive.pong label t.now = .error fault := by
  have stops := Reaction.take_fault t.now (.opened t.tracker t.session) rfl e.message fault
  constructor
  · intro ends
    obtain ⟨fails, rfl⟩ := Prod.mk.inj ((enter_eq t e).symm.trans ends)
    obtain ⟨label, pong, rejected⟩ := stops.mp fails
    exact ⟨absorb_rejected t e label pong fault rejected, label, pong, rejected⟩
  · rintro ⟨rfl, label, pong, rejected⟩
    rw [enter_eq, stops.mpr ⟨label, pong, rejected⟩,
      absorb_rejected t' e label pong fault rejected]

/-- An entry that cannot be decoded leads to its notice and to nothing else. -/
theorem enter_undecodable (t : Timeline) (e : Entry) (cause : DecodeError)
    (undecodable : e.message = .error cause) :
    t.enter e = (none, { t with notices := t.notices ++ [.messageSkipped cause] }) := by
  rw [enter_eq, undecodable]
  simp [Reaction.take, Reaction.notice, Reaction.opened, absorb_eq]

/-! ### Many entries -/

theorem enterAll_append (t : Timeline) (a b : List Entry) :
    t.enterAll (a ++ b) =
      match t.enterAll a with
      | (none, t) => t.enterAll b
      | stopped => stopped := by
  induction a generalizing t with
  | nil => rfl
  | cons e rest ih =>
    simp only [List.cons_append, enterAll]
    cases t.enter e with
    | mk fault t' =>
      cases fault with
      | none => exact ih t'
      | some fault => rfl

/-- The entries that follow on a reaction belong to it.  By induction on the
entries, where the reaction takes in one after the other. -/
theorem enterAll_absorb (t : Timeline) (r : Reaction) (running : r.fault = none)
    (entries : List Entry) :
    (t.absorb r).enterAll entries =
      (((entries.map Entry.message).foldl (Reaction.take t.now) r).fault,
        t.absorb ((entries.map Entry.message).foldl (Reaction.take t.now) r)) := by
  induction entries generalizing r with
  | nil => simp [enterAll, running]
  | cons e rest ih =>
    simp only [enterAll, enter_absorb t r running, List.map_cons, List.foldl_cons]
    cases fault : (r.take t.now e.message).fault with
    | none => exact ih _ fault
    | some fault' =>
      rw [Reaction.foldl_take_of_fault t.now _ fault' fault, fault]

/-- What some entries lead to on a timeline. -/
def reaction (t : Timeline) (entries : List Entry) : Reaction :=
  (entries.map Entry.message).foldl (Reaction.take t.now) (.opened t.tracker t.session)

theorem enterAll_eq (t : Timeline) (entries : List Entry) :
    t.enterAll entries = ((t.reaction entries).fault, t.absorb (t.reaction entries)) := by
  have goes := enterAll_absorb t (.opened t.tracker t.session) rfl entries
  rwa [absorb_opened] at goes

theorem enterAll_toldBefore (t : Timeline) (notices : List Notice) (entries : List Entry) :
    (t.toldBefore notices).enterAll entries =
      ((t.enterAll entries).1, (t.enterAll entries).2.toldBefore notices) := by
  rw [enterAll_eq, enterAll_eq, absorb_toldBefore]
  rfl

/-- Another clock and other notices change nothing about what entries lead to, but
the round trip that is told of a pong. -/
theorem reaction_retimed (t : Timeline) {now roundTrip : Nat}
    (spans : t.session.keepAlive.Spans now roundTrip) (told : List Notice)
    (entries : List Entry) :
    ({ t with now, notices := told } : Timeline).reaction entries =
      (t.reaction entries).retimed roundTrip :=
  Reaction.foldl_take_retimed (r := .opened t.tracker t.session) spans t.now _

theorem spans_absorb (t : Timeline) {later roundTrip : Nat}
    (spans : t.session.keepAlive.Spans later roundTrip) (entries : List Entry) :
    (t.absorb (t.reaction entries)).session.keepAlive.Spans later roundTrip := by
  rw [absorb_eq]
  exact Reaction.spans_foldl_take (r := .opened t.tracker t.session) spans t.now _

/-- On a clock that shows something else, entries come to the same, but for the
round trip that is told of a pong. -/
theorem enterAll_retimed (t : Timeline) {now roundTrip : Nat}
    (spans : t.session.keepAlive.Spans now roundTrip) (told : List Notice)
    (entries : List Entry) :
    ({ t with now, notices := told } : Timeline).enterAll entries =
      ((t.reaction entries).fault, { t.absorb (t.reaction entries) with
        now, notices := told ++ (t.reaction entries).notices.map (.retimed roundTrip) }) := by
  rw [enterAll_eq, reaction_retimed t spans told entries]
  simp [absorb_eq, Reaction.retimed]

/-- A frame comes to what its entries come to, one by one. -/
theorem receive_of_holds (t : Timeline) {frame : String} {entries : List Entry}
    (holds : Holds frame entries) : t.receive frame = t.enterAll entries := by
  have taken : (Reaction.opened t.tracker t.session).takeFrame t.now frame =
      t.reaction entries := by
    simp [Reaction.takeFrame, Reaction.opened, reaction, Message.ofFrame_of_holds holds]
  rw [enterAll_eq]
  show ((Reaction.takeFrame t.now (.opened t.tracker t.session) frame).fault,
    t.absorb (Reaction.takeFrame t.now (.opened t.tracker t.session) frame)) = _
  rw [taken]

/-- A row of frames comes to what all their entries come to, one by one. -/
theorem receiveAll_of_holds (t : Timeline) {frames : List String} {parts : List (List Entry)}
    (cut : List.Forall₂ Holds frames parts) : t.receiveAll frames = t.enterAll parts.flatten := by
  induction cut generalizing t with
  | nil => rfl
  | cons holds _ ih =>
    rw [List.flatten_cons, enterAll_append, receiveAll, receive_of_holds t holds]
    split
    next t' _ => exact ih t'
    next => rfl

/-- The entries of a row of frames come to the same if each frame comes in at its
own instant, but for the round trip that is told of a pong.  By induction on the
frames: between two of them only the clock and the notices differ, and the ping
that was on its way at first still is, or has its pong. -/
theorem receiveEach_of_holds {awaited : KeepAlive} {frames : List String}
    {parts : List (List Entry)} (cut : List.Forall₂ Holds frames parts) (t : Timeline)
    (spans : ∀ instant, t.session.keepAlive.Spans instant (awaited.since instant)) (now : Nat)
    (told : List Notice) (instants : List Nat) (each : instants.length = frames.length) :
    ∃ (fault : Option FeedError) (t' : Timeline) (now' : Nat) (late : List (List Notice)),
      late.length ≤ frames.length ∧
      t.enterAll parts.flatten = (fault, { t' with notices := t.notices ++ late.flatten }) ∧
      ({ t with now, notices := told } : Timeline).receiveEach (instants.zip frames) =
        (fault, { t' with
          now := now', notices := told ++ Notice.retimedEach awaited instants late }) := by
  induction cut generalizing t now told instants with
  | nil =>
    obtain rfl := List.eq_nil_of_length_eq_zero each
    exact ⟨none, t, now, [], Nat.le_refl 0, by simp [enterAll], by
      simp [receiveEach, Notice.retimedEach]⟩
  | @cons frame entries frames parts holds _ ih =>
    obtain ⟨instant, instants, rfl⟩ := List.exists_cons_of_length_eq_add_one each
    have first : (onClock { t with now, notices := told } instant).receive frame = _ :=
      (receive_of_holds _ holds).trans (enterAll_retimed t (spans instant) told entries)
    rw [List.flatten_cons, enterAll_append, enterAll_eq, List.zip_cons_cons, receiveEach, first]
    cases ends : (t.reaction entries).fault with
    | some fault =>
      refine ⟨some fault, t.absorb (t.reaction entries), instant, [(t.reaction entries).notices],
        by simp, ?_, ?_⟩
      · simp [absorb_eq]
      · simp [Notice.retimedEach]
    | none =>
      obtain ⟨fault, t', now', late, few, goes, goes'⟩ :=
        ih (t.absorb (t.reaction entries)) (fun later => t.spans_absorb (spans later) entries)
          instant (told ++ (t.reaction entries).notices.map (.retimed (awaited.since instant)))
          instants (Nat.succ.inj each)
      refine ⟨fault, t', now', (t.reaction entries).notices :: late, Nat.succ_le_succ few, ?_, ?_⟩
      · simpa [absorb_eq] using goes
      · simpa [Notice.retimedEach] using goes'

/-- A session stops just at a pong that its keep-alive rejects.  What came
before has happened, and what comes after has not. -/
theorem enterAll_stops (t : Timeline) (entries : List Entry) (fault : FeedError) (t' : Timeline) :
    t.enterAll entries = (some fault, t') ↔
      ∃ before e later label, entries = before ++ e :: later ∧ t.enterAll before = (none, t') ∧
        e.message = .ok (.pong label) ∧ t'.session.keepAlive.pong label t'.now = .error fault := by
  constructor
  · intro stops
    induction entries generalizing t with
    | nil => simp [enterAll] at stops
    | cons e rest ih =>
      cases entered : t.enter e with
      | mk fault' t₁ =>
        simp only [enterAll, entered] at stops
        cases fault' with
        | none =>
          obtain ⟨before, e', later, label, rfl, reached, rejected⟩ := ih t₁ stops
          refine ⟨e :: before, e', later, label, rfl, ?_, rejected⟩
          simpa only [enterAll, entered] using reached
        | some _ =>
          obtain ⟨rfl, label, rejected⟩ := (enter_stops t e fault t').mp (entered.trans stops)
          exact ⟨[], e, rest, label, rfl, rfl, rejected⟩
  · rintro ⟨before, e, later, label, rfl, reached, pong, rejected⟩
    have entered := (enter_stops t' e fault t').mpr ⟨rfl, label, pong, rejected⟩
    simp only [enterAll_append, reached, enterAll, entered]

/-- An entry that cannot be decoded costs its own notice, if the session gets
that far, and nothing else. -/
theorem enterAll_undecodable (t : Timeline) (before : List Entry) (bad : Entry) (later : List Entry)
    (cause : DecodeError) (undecodable : bad.message = .error cause) :
    ∃ (fault : Option FeedError) (t' : Timeline) (late : List Notice),
      t.enterAll (before ++ later) =
        (fault, { t' with notices := (t.enterAll before).2.notices ++ late }) ∧
      t.enterAll (before ++ bad :: later) =
        (fault, { t' with notices := (t.enterAll before).2.notices ++
          (if (t.enterAll before).1.isSome then [] else [.messageSkipped cause]) ++ late }) := by
  rw [enterAll_append, enterAll_append]
  rcases t.enterAll before with ⟨_ | fault, t₁⟩
  · -- what comes later does not read the notices, so it can be followed without them
    let quiet : Timeline := { t₁ with notices := [] }
    have without : t₁.enterAll later =
        ((quiet.enterAll later).1, (quiet.enterAll later).2.toldBefore t₁.notices) := by
      rw [← enterAll_toldBefore]
      simp [quiet, toldBefore]
    have with_ : t₁.enterAll (bad :: later) = ((quiet.enterAll later).1,
        (quiet.enterAll later).2.toldBefore (t₁.notices ++ [.messageSkipped cause])) := by
      rw [← enterAll_toldBefore]
      simp [enterAll, enter_undecodable t₁ bad cause undecodable, quiet, toldBefore]
    exact ⟨_, _, _, without, by simpa [toldBefore] using with_⟩
  · exact ⟨some fault, t₁, [], by simp, by simp⟩

/-! ## 4. Cutting -/

/-- How a frame and a row of frames that hold the same entries come to the
same, and what they come to. -/
structure TakenAsOne (t : Timeline) (frames : List String) (whole : String)
    (entries : List Entry) : Prop where
  /-- The row of frames and the one frame come to the same. -/
  cut : t.receiveAll frames = t.receive whole
  /-- Both come to what the entries come to, each taken alone. -/
  alone : t.receive whole = t.enterAll entries
  /-- It does not matter when the frame comes in, but for the round trip that is
  told of a pong. -/
  anytime : ∀ now, ∃ (fault : Option FeedError) (t' : Timeline) (late : List Notice),
    t.receive whole = (fault, { t' with notices := t.notices ++ late }) ∧
    (t.onClock now).receive whole = (fault, { t' with
      now, notices := t.notices ++ late.map (.retimed (t.session.keepAlive.since now)) })
  /-- Nor does it matter when each frame of the row comes in, but for that round
  trip: it is counted up to the instant of its own frame. -/
  apart : ∀ instants : List Nat, instants.length = frames.length →
    ∃ (fault : Option FeedError) (t' : Timeline) (now : Nat) (late : List (List Notice)),
      late.length ≤ frames.length ∧
      t.receive whole = (fault, { t' with notices := t.notices ++ late.flatten }) ∧
      t.receiveEach (instants.zip frames) = (fault, { t' with
        now, notices := t.notices ++ Notice.retimedEach t.session.keepAlive instants late })
  /-- A fault arises just at a pong that the keep-alive rejects.  All entries
  before it have been taken, and nothing else has happened. -/
  stops : ∀ fault t', t.receive whole = (some fault, t') ↔
    ∃ before e later label, entries = before ++ e :: later ∧ t.enterAll before = (none, t') ∧
      e.message = .ok (.pong label) ∧ t'.session.keepAlive.pong label t'.now = .error fault
  /-- An entry that cannot be decoded costs nothing but its own notice, which
  is told where the entry is reached: a frame without it comes to the rest. -/
  skips : ∀ before bad later cause short, entries = before ++ bad :: later →
    bad.message = .error cause → Holds short (before ++ later) →
    ∃ (fault : Option FeedError) (t' : Timeline) (late : List Notice),
      t.receive short =
        (fault, { t' with notices := (t.enterAll before).2.notices ++ late }) ∧
      t.receive whole =
        (fault, { t' with notices := (t.enterAll before).2.notices ++
          (if (t.enterAll before).1.isSome then [] else [.messageSkipped cause]) ++ late })

/-- How entries are cut into frames does not matter. -/
theorem batching_irrelevant (t : Timeline) (frames : List String) (parts : List (List Entry))
    (whole : String) (cut : List.Forall₂ Holds frames parts) (joined : Holds whole parts.flatten) :
    t.TakenAsOne frames whole parts.flatten where
  cut := by rw [receiveAll_of_holds t cut, receive_of_holds t joined]
  alone := receive_of_holds t joined
  anytime := by
    intro now
    rw [receive_of_holds (t.onClock now) joined, receive_of_holds t joined]
    refine ⟨_, t.absorb (t.reaction parts.flatten), (t.reaction parts.flatten).notices, ?_,
      enterAll_retimed t (t.session.keepAlive.spans_since now) t.notices parts.flatten⟩
    rw [enterAll_eq, absorb_eq]
  apart := by
    intro instants each
    rw [receive_of_holds t joined]
    exact receiveEach_of_holds cut t t.session.keepAlive.spans_since t.now t.notices instants each
  stops := by
    intro fault t'
    rw [receive_of_holds t joined]
    exact enterAll_stops t parts.flatten fault t'
  skips := by
    intro before bad later cause short place undecodable holds
    rw [receive_of_holds t joined, receive_of_holds t holds, place]
    exact enterAll_undecodable t before bad later cause undecodable

/-- A timeline on which the ping 0 has been on its way for 30 milliseconds. -/
def exampleAwaited : Timeline :=
  { start (.ofStore (.memory (.withLimit 5)) .default) (fun _ _ => (0, none)) 0 with
    now := 130
    session := ⟨⟨0, some (0, 100)⟩, true⟩ }

/-- A node that is stale and an entry whose code is no number; then the pong of
the ping 0, an action that is not looked at, and the same pong again. -/
def exampleEntries : List (List Entry) :=
  [[⟨.number (.unsigned 20), .number (.unsigned 7)⟩, ⟨.string "x", .null⟩],
   [⟨.number (.unsigned 15), .string "0"⟩, ⟨.number (.unsigned 1), .null⟩,
    ⟨.number (.unsigned 15), .string "0"⟩]]

/-- The same five entries in two frames and in one.  The last one is a fault, and
each of the others has its notice. -/
theorem batching_irrelevant_exampleAwaited :
    List.Forall₂ Holds ["[20, 7, \"x\", null]", "[15, \"0\", 1, null, 15, \"0\"]"]
        exampleEntries ∧
      Holds "[20, 7, \"x\", null, 15, \"0\", 1, null, 15, \"0\"]" exampleEntries.flatten ∧
      exampleAwaited.TakenAsOne ["[20, 7, \"x\", null]", "[15, \"0\", 1, null, 15, \"0\"]"]
        "[20, 7, \"x\", null, 15, \"0\", 1, null, 15, \"0\"]" exampleEntries.flatten ∧
      (exampleAwaited.enterAll exampleEntries.flatten).1 = some (.unexpectedPong none "0") ∧
      ∃ cause, (exampleAwaited.enterAll exampleEntries.flatten).2.notices =
        [.nodeStale 7, .messageSkipped cause, .pongTaken "0" 30, .actionIgnored .bestBlock] := by
  have cut : List.Forall₂ Holds ["[20, 7, \"x\", null]", "[15, \"0\", 1, null, 15, \"0\"]"]
      exampleEntries := .cons rfl (.cons rfl .nil)
  have joined : Holds "[20, 7, \"x\", null, 15, \"0\", 1, null, 15, \"0\"]"
      exampleEntries.flatten := rfl
  exact ⟨cut, joined, batching_irrelevant exampleAwaited _ _ _ cut joined, rfl, _, rfl⟩

end Timeline

end NodeWatch
