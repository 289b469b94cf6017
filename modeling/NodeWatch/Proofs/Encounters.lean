/-
NodeWatch.Proofs.Encounters — what a client meets, and what of it is fatal.

A client meets one thing after the other: the entries of frames, whatever else
comes in on the socket, the ticks of its pings, and the end of the time for the
first node.  Which of them is fatal, and with which fault, is said here by
`verdict`, which looks at nothing but what has been met before: how many pings
were due, how many pongs came, and whether a node was announced.

Between two events anything may become of the tracker (`Occurrence.meanwhile`):
the tasks of earlier announcements go on, succeed or fail, and snapshots are
taken.

A client that has met nothing fatal stands as these counts say (`Stands`), so
the next thing has just the fault that is its verdict (`Stands.meet`,
`Stands.meet_fatal`).  By induction a row of occurrences comes to what leads to
its first fault, and after it only the tracker goes on (`foldl_step_of_ends`).
-/
import Mathlib.Data.List.Induction
import NodeWatch.Proofs.Batching

namespace NodeWatch

namespace Client

/-! ## 1. What a client lives through -/

/-- Something comes at an instant; or tasks and snapshots have meanwhile made
another tracker of the one that was there. -/
inductive Occurrence (α : Type) where
  | comes (now : Nat) (what : α)
  | meanwhile (tracker : Tracker)

/-- What a client meets, one thing at a time. -/
inductive Encounter where
  /-- An entry of a frame. -/
  | entry (entry : Except DecodeError Message)
  /-- A frame that cannot be decoded. -/
  | unreadable (cause : DecodeError)
  /-- A binary message that is no text. -/
  | garbled (fault : Text.Utf8Fault)
  | close (cause : Option (Nat × String))
  | control
  | broken (reason : String)
  | ended
  | pingDue
  | firstNodeDue

/-- What is met in a frame. -/
def inFrame (frame : String) : List Encounter :=
  match Message.ofFrame frame with
  | .ok entries => entries.map .entry
  | .error cause => [.unreadable cause]

/-- What is met in an event. -/
def encounters : FeedEvent → List Encounter
  | .text frame => inFrame frame
  | .binary bytes =>
    match Text.decodeUtf8 bytes with
    | .ok frame => inFrame frame
    | .error fault => [.garbled fault]
  | .close cause => [.close cause]
  | .control => [.control]
  | .broken reason => [.broken reason]
  | .ended => [.ended]
  | .pingDue => [.pingDue]
  | .firstNodeDue => [.firstNodeDue]

namespace Occurrence

/-- What comes, if something does. -/
def what? {α : Type} : Occurrence α → Option α
  | .comes _ what => some what
  | .meanwhile _ => none

/-- The same, one thing at a time. -/
def unfold : Occurrence FeedEvent → List (Occurrence Encounter)
  | .comes now event => (encounters event).map (.comes now)
  | .meanwhile tracker => [.meanwhile tracker]

/-- The tracker that tasks and snapshots have made. -/
def trackerAfter {α : Type} (tracker : Tracker) : Occurrence α → Tracker
  | .comes _ _ => tracker
  | .meanwhile tracker' => tracker'

end Occurrence

/-- What comes in a row of occurrences. -/
def whats {α : Type} (occurrences : List (Occurrence α)) : List α :=
  occurrences.filterMap Occurrence.what?

/-- A client that has connected. -/
def begun (config : FeedConfig) (tracker : Tracker) : Reaction :=
  connect config (.opened tracker .start)

/-- What an occurrence leads to. -/
def live (config : FeedConfig) (r : Reaction) : Occurrence FeedEvent → Reaction
  | .comes now event => react config now r event
  | .meanwhile tracker => { r with tracker }

/-- What a row of occurrences leads to. -/
def lives (config : FeedConfig) (r : Reaction) (occurrences : List (Occurrence FeedEvent)) :
    Reaction :=
  occurrences.foldl (live config) r

/-! ## 2. What is fatal -/

namespace Encounter

def isPing : Encounter → Bool
  | .pingDue => true
  | _ => false

def isPong : Encounter → Bool
  | .entry (.ok (.pong _)) => true
  | _ => false

def isAnnouncement : Encounter → Bool
  | .entry (.ok (.addedNode _)) => true
  | _ => false

end Encounter

/-- How many pings were due. -/
def pings (met : List Encounter) : Nat :=
  met.countP Encounter.isPing

/-- How many pongs came. -/
def pongs (met : List Encounter) : Nat :=
  met.countP Encounter.isPong

/-- Whether a node was announced. -/
def announced (met : List Encounter) : Bool :=
  met.any Encounter.isAnnouncement

/-- The number of the ping that has not been answered. -/
def awaited? (met : List Encounter) : Option Nat :=
  if pongs met < pings met then some (pongs met) else none

/-- The fault that something brings after what was met before it, if it brings
one. -/
def verdict (config : FeedConfig) (before : List Encounter) : Encounter → Option FeedError
  | .entry (.ok (.pong label)) =>
    if (awaited? before).isSome ∧ KeepAlive.pongId? label = awaited? before then none
    else some (.unexpectedPong (awaited? before) label)
  | .close cause => some (.remoteClosed (cause.map fun (code, reason) => closeReason code reason))
  | .broken reason => some (.transport reason)
  | .ended => some (.remoteClosed none)
  | .pingDue => (awaited? before).map .missedPong
  | .firstNodeDue =>
    if announced before then none else some (.noNodesAnnounced (config.firstNodeTimeout * 1000))
  | _ => none

/-- Whether nothing in a row is fatal. -/
def Harmless (config : FeedConfig) (met : List Encounter) : Prop :=
  ∀ before a later, met = before ++ a :: later → verdict config before a = none

/-- Where a row of occurrences ends for a client: at the first thing that is
fatal, or not at all. -/
inductive Ends (config : FeedConfig) :
    (all before : List (Occurrence Encounter)) → Option FeedError → Prop where
  | quiet {before : List (Occurrence Encounter)} :
    Harmless config (whats before) → Ends config before before none
  | fatal {before : List (Occurrence Encounter)} {now : Nat} {a : Encounter}
    {later : List (Occurrence Encounter)} {fault : FeedError} :
    Harmless config (whats before) → verdict config (whats before) a = some fault →
    Ends config (before ++ .comes now a :: later) before (some fault)

theorem whats_comes {α : Type} (occurrences : List (Occurrence α)) (now : Nat) (what : α) :
    whats (occurrences ++ [.comes now what]) = whats occurrences ++ [what] :=
  List.filterMap_append

theorem whats_meanwhile {α : Type} (occurrences : List (Occurrence α)) (tracker : Tracker) :
    whats (occurrences ++ [.meanwhile tracker]) = whats occurrences := by
  rw [whats, List.filterMap_append]
  exact List.append_nil _

theorem harmless_nil (config : FeedConfig) : Harmless config [] := by
  intro before a later place
  simp at place

theorem harmless_concat {config : FeedConfig} {met : List Encounter} {a : Encounter} :
    Harmless config (met ++ [a]) ↔ Harmless config met ∧ verdict config met a = none := by
  constructor
  · intro harmless
    refine ⟨?_, harmless met a [] rfl⟩
    intro before b later place
    refine harmless before b (later ++ [a]) ?_
    rw [place, List.append_assoc, List.cons_append]
  · rintro ⟨harmless, last⟩ before b later place
    rcases List.eq_nil_or_concat later with rfl | ⟨later, c, rfl⟩
    · obtain ⟨rfl, same⟩ := List.append_inj' place rfl
      cases same
      exact last
    · rw [List.concat_eq_append, ← List.cons_append, ← List.append_assoc] at place
      obtain ⟨rfl, -⟩ := List.append_inj' place rfl
      exact harmless before b later rfl

/-- Every row ends somewhere. -/
theorem exists_ends (config : FeedConfig) (all : List (Occurrence Encounter)) :
    ∃ before fault?, Ends config all before fault? := by
  induction all using List.reverseRecOn with
  | nil => exact ⟨[], none, .quiet (harmless_nil config)⟩
  | append_singleton all h ih =>
    obtain ⟨before, fault?, ends⟩ := ih
    cases ends with
    | fatal harmless fatal =>
      rw [List.append_assoc, List.cons_append]
      exact ⟨before, _, .fatal harmless fatal⟩
    | quiet harmless =>
      cases h with
      | meanwhile tracker =>
        refine ⟨all ++ [.meanwhile tracker], none, .quiet ?_⟩
        rw [whats_meanwhile]
        exact harmless
      | comes now a =>
        cases found : verdict config (whats all) a with
        | some fault => exact ⟨all, some fault, .fatal harmless found⟩
        | none =>
          refine ⟨all ++ [.comes now a], none, .quiet ?_⟩
          rw [whats_comes]
          exact harmless_concat.2 ⟨harmless, found⟩

/-! ## 3. One thing at a time -/

/-- What something leads to that comes before any fault. -/
def meet (config : FeedConfig) (now : Nat) (r : Reaction) : Encounter → Reaction
  | .entry (.ok message) => r.dispatch now message
  | .entry (.error cause) => r.notice (.messageSkipped cause)
  | .unreadable cause => r.notice (.frameSkipped cause)
  | .garbled fault => r.notice (.binarySkipped fault)
  | .close cause => handle config now r (.close cause)
  | .control => handle config now r .control
  | .broken reason => handle config now r (.broken reason)
  | .ended => handle config now r .ended
  | .pingDue => handle config now r .pingDue
  | .firstNodeDue => handle config now r .firstNodeDue

/-- What an occurrence leads to if no fault ends the run. -/
def proceed (config : FeedConfig) (r : Reaction) : Occurrence Encounter → Reaction
  | .comes now a => meet config now r a
  | .meanwhile tracker => { r with tracker }

/-- What a row of occurrences leads to if no fault ends the run. -/
def undisturbed (config : FeedConfig) (r : Reaction) (occurrences : List (Occurrence Encounter)) :
    Reaction :=
  occurrences.foldl (proceed config) r

/-- What an occurrence leads to. -/
def step (config : FeedConfig) (r : Reaction) : Occurrence Encounter → Reaction
  | .comes now a => if r.fault.isSome then r else meet config now r a
  | .meanwhile tracker => { r with tracker }

theorem foldl_step_frame (config : FeedConfig) (now : Nat) (r : Reaction) (frame : String) :
    ((inFrame frame).map (Occurrence.comes now)).foldl (step config) r = r.takeFrame now frame := by
  unfold inFrame Reaction.takeFrame
  cases Message.ofFrame frame with
  | error cause => rfl
  | ok entries =>
    have one : ∀ (r : Reaction) (e : Except DecodeError Message),
        step config r (.comes now (.entry e)) = r.take now e := by
      intro r e
      cases e <;> rfl
    have all : ((entries.map Encounter.entry).map (Occurrence.comes now)).foldl (step config) r =
        entries.foldl (Reaction.take now) r := by
      rw [List.foldl_map, List.foldl_map]
      simp only [one]
    cases stopped : r.fault with
    | none => simpa [stopped] using all
    | some fault =>
      rw [all, Reaction.foldl_take_of_fault now r fault stopped]
      rfl

/-- A binary message that is text counts as that text. -/
theorem react_binary (config : FeedConfig) (now : Nat) (r : Reaction) {bytes : ByteArray}
    {frame : String} (decoded : Text.decodeUtf8 bytes = .ok frame) :
    react config now r (.binary bytes) = react config now r (.text frame) := by
  simp only [react, handle, decoded]

theorem react_text (config : FeedConfig) (now : Nat) (r : Reaction) (frame : String) :
    react config now r (.text frame) = r.takeFrame now frame := by
  unfold react handle Reaction.takeFrame
  split <;> rfl

/-- A client takes in what there is one by one. -/
theorem live_eq (config : FeedConfig) (r : Reaction) (h : Occurrence FeedEvent) :
    live config r h = h.unfold.foldl (step config) r := by
  cases h with
  | meanwhile tracker => rfl
  | comes now event =>
    show react config now r event = ((encounters event).map (Occurrence.comes now)).foldl _ r
    cases event with
    | text frame => rw [encounters, foldl_step_frame, react_text]
    | binary bytes =>
      cases decoded : Text.decodeUtf8 bytes with
      | ok frame =>
        simp only [encounters, decoded]
        rw [foldl_step_frame, react_binary config now r decoded, react_text]
      | error fault =>
        simp only [encounters, react, handle, decoded]
        rfl
    | _ => rfl

theorem lives_eq (config : FeedConfig) (r : Reaction) (occurrences : List (Occurrence FeedEvent)) :
    lives config r occurrences = (occurrences.flatMap Occurrence.unfold).foldl (step config) r := by
  unfold lives
  induction occurrences generalizing r with
  | nil => rfl
  | cons h rest ih => rw [List.foldl_cons, ih, live_eq, List.flatMap_cons, List.foldl_append]

/-! ## 4. Before a fault -/

theorem pings_concat (met : List Encounter) (a : Encounter) :
    pings (met ++ [a]) = pings met + if a.isPing then 1 else 0 := by
  simp [pings, List.countP_append, List.countP_cons]

theorem pongs_concat (met : List Encounter) (a : Encounter) :
    pongs (met ++ [a]) = pongs met + if a.isPong then 1 else 0 := by
  simp [pongs, List.countP_append, List.countP_cons]

theorem announced_concat (met : List Encounter) (a : Encounter) :
    announced (met ++ [a]) = (announced met || a.isAnnouncement) := by
  simp [announced]

/-- How a client stands that has met some things, none of them fatal. -/
structure Stands (config : FeedConfig) (met : List Encounter) (r : Reaction) : Prop where
  running : r.fault = none
  sent : r.sent = Command.subscribe config.chain :: (List.range (pings met)).map Command.ping
  awaiting : r.session.awaitingFirstNode = !announced met
  next : r.session.keepAlive.nextId = pongs met
  awaited : r.session.keepAlive.awaited = awaited? met
  turns : pings met = pongs met ∨ pings met = pongs met + 1

theorem stands_begun (config : FeedConfig) (tracker : Tracker) :
    Stands config [] (begun config tracker) where
  running := rfl
  sent := rfl
  awaiting := rfl
  next := rfl
  awaited := rfl
  turns := Or.inl rfl

/-- An announcement ends the wait for the first node, and nothing else does. -/
theorem awaiting_dispatch (now : Nat) (r : Reaction) (m : Message) :
    (r.dispatch now m).session.awaitingFirstNode =
      (r.session.awaitingFirstNode && !(Encounter.entry (.ok m)).isAnnouncement) := by
  cases m with
  | addedNode node => simp [Reaction.dispatch, Reaction.announce_eq, Encounter.isAnnouncement]
  | pong label =>
    cases answer : r.session.keepAlive.pong label now <;>
      simp [Reaction.dispatch, Reaction.pong, answer, Reaction.notice, Reaction.withKeepAlive,
        Encounter.isAnnouncement]
  | _ =>
    simp [Reaction.dispatch, Reaction.noticeIf, Reaction.notice, Reaction.begin,
      Reaction.withRegistry, Encounter.isAnnouncement]

namespace Stands

variable {config : FeedConfig} {met : List Encounter} {r : Reaction}

/-- The counter goes up only with a pong that answers a ping. -/
theorem nextId_le (stands : Stands config met r) : r.session.keepAlive.nextId ≤ pings met := by
  have next := stands.next
  have turns := stands.turns
  omega

/-- What is neither a ping nor a pong leaves the keep-alive as it was. -/
theorem quiet (stands : Stands config met r) {a : Encounter} {r' : Reaction}
    (ping : a.isPing = false) (pong : a.isPong = false) (running : r'.fault = none)
    (sent : r'.sent = r.sent) (keepAlive : r'.session.keepAlive = r.session.keepAlive)
    (awaiting : r'.session.awaitingFirstNode =
      (r.session.awaitingFirstNode && !a.isAnnouncement)) : Stands config (met ++ [a]) r' := by
  have pings : pings (met ++ [a]) = pings met := by simp [pings_concat, ping]
  have pongs : pongs (met ++ [a]) = pongs met := by simp [pongs_concat, pong]
  refine
    { running
      sent := by rw [sent, stands.sent, pings]
      awaiting := by rw [awaiting, stands.awaiting, announced_concat, Bool.not_or]
      next := by rw [keepAlive, stands.next, pongs]
      awaited := by rw [keepAlive, stands.awaited, awaited?, awaited?, pings, pongs]
      turns := by rw [pings, pongs]; exact stands.turns }

theorem ping (stands : Stands config met r) (now : Nat) (harmless : awaited? met = none) :
    Stands config (met ++ [.pingDue]) (r.ping now) := by
  have none : r.session.keepAlive.outstanding = none := by
    have awaited := stands.awaited
    rw [harmless] at awaited
    exact Option.map_eq_none_iff.1 awaited
  have even : pings met = pongs met := by
    have turns := stands.turns
    unfold awaited? at harmless
    split at harmless
    · cases harmless
    · omega
  have pings : pings (met ++ [.pingDue]) = pings met + 1 := pings_concat met .pingDue
  have pongs : pongs (met ++ [.pingDue]) = pongs met := pongs_concat met .pingDue
  have announced : announced (met ++ [.pingDue]) = announced met := by
    rw [announced_concat]
    exact Bool.or_false _
  simp only [Reaction.ping, KeepAlive.ping, none]
  refine
    { running := stands.running
      sent := ?_
      awaiting := by rw [announced]; exact stands.awaiting
      next := by rw [pongs]; exact stands.next
      awaited := ?_
      turns := by rw [pings, pongs]; omega }
  · show r.sent ++ [Command.ping r.session.keepAlive.nextId] = _
    rw [stands.sent, stands.next, pings, List.range_succ, List.map_append, even]
    rfl
  · show some r.session.keepAlive.nextId = _
    rw [stands.next, awaited?, pings, pongs, if_pos (by omega)]

theorem pong (stands : Stands config met r) (now : Nat) {label : String} {id : Nat}
    (waits : awaited? met = some id) (answers : KeepAlive.pongId? label = some id) :
    Stands config (met ++ [.entry (.ok (.pong label))]) (r.dispatch now (.pong label)) := by
  obtain ⟨⟨id', sent⟩, outstanding, same⟩ :
      ∃ ping, r.session.keepAlive.outstanding = some ping ∧ ping.1 = id :=
    Option.map_eq_some_iff.1 (stands.awaited.trans waits)
  obtain rfl : id' = id := same
  have odd : pings met = pongs met + 1 := by
    have turns := stands.turns
    unfold awaited? at waits
    split at waits
    · omega
    · cases waits
  have pings : pings (met ++ [.entry (.ok (.pong label))]) = pings met :=
    pings_concat met (.entry (.ok (.pong label)))
  have pongs : pongs (met ++ [.entry (.ok (.pong label))]) = pongs met + 1 :=
    pongs_concat met (.entry (.ok (.pong label)))
  have announced : announced (met ++ [.entry (.ok (.pong label))]) = announced met := by
    rw [announced_concat]
    exact Bool.or_false _
  simp only [Reaction.dispatch, Reaction.pong, KeepAlive.pong, outstanding, answers, if_true,
    Reaction.withKeepAlive, Reaction.notice]
  refine
    { running := stands.running
      sent := by rw [pings]; exact stands.sent
      awaiting := by rw [announced]; exact stands.awaiting
      next := by rw [pongs, ← stands.next]
      awaited := by rw [awaited?, pings, pongs, if_neg (by omega)]; rfl
      turns := by rw [pings, pongs]; omega }

/-- What is not fatal is met without a fault. -/
theorem meet (stands : Stands config met r) (now : Nat) {a : Encounter}
    (harmless : verdict config met a = none) :
    Stands config (met ++ [a]) (Client.meet config now r a) := by
  have same : r.session.awaitingFirstNode = (r.session.awaitingFirstNode && !false) := by simp
  cases a with
  | entry e =>
    cases e with
    | error cause => exact stands.quiet rfl rfl stands.running rfl rfl same
    | ok m =>
      by_cases pong : ∃ label, m = .pong label
      · obtain ⟨label, rfl⟩ := pong
        have answers : (awaited? met).isSome ∧ KeepAlive.pongId? label = awaited? met := by
          by_contra not
          simp only [verdict, if_neg not] at harmless
          cases harmless
        obtain ⟨id, waits⟩ := Option.isSome_iff_exists.1 answers.1
        exact stands.pong now waits (answers.2.trans waits)
      · have no_pong : (Encounter.entry (.ok m)).isPong = false := by
          cases m <;> first | rfl | exact absurd ⟨_, rfl⟩ pong
        obtain ⟨fault, sent, keepAlive⟩ := Reaction.dispatch_of_no_pong now r (not_exists.1 pong)
        exact stands.quiet rfl no_pong (fault.trans stands.running) sent keepAlive
          (awaiting_dispatch now r m)
  | close cause => cases harmless
  | broken reason => cases harmless
  | ended => cases harmless
  | pingDue => exact stands.ping now (Option.map_eq_none_iff.1 harmless)
  | firstNodeDue =>
    have heard : announced met = true := by
      by_contra not
      simp only [verdict, if_neg not] at harmless
      cases harmless
    have idle : Client.meet config now r .firstNodeDue = r := by
      simp [Client.meet, handle, stands.awaiting, heard]
    rw [idle]
    exact stands.quiet rfl rfl stands.running rfl rfl same
  | _ => exact stands.quiet rfl rfl stands.running rfl rfl same

/-- A pong that answers no ping is rejected, with its verdict. -/
theorem rejected (stands : Stands config met r) (now : Nat) {label : String} {fault : FeedError}
    (fatal : verdict config met (.entry (.ok (.pong label))) = some fault) :
    r.session.keepAlive.pong label now = .error fault := by
  have awaited := stands.awaited
  unfold KeepAlive.pong
  cases outstanding : r.session.keepAlive.outstanding with
  | none =>
    rw [KeepAlive.awaited, outstanding] at awaited
    simp only [verdict, ← awaited] at fatal
    cases fatal
    rfl
  | some ping =>
    rw [KeepAlive.awaited, outstanding] at awaited
    simp only [verdict, ← awaited, Option.map_some, Option.isSome_some, true_and] at fatal
    by_cases answers : KeepAlive.pongId? label = some ping.1
    · rw [if_pos answers] at fatal
      cases fatal
    · rw [if_neg answers] at fatal
      cases fatal
      exact if_neg answers

/-- What is fatal brings its fault, and changes nothing else. -/
theorem meet_fatal (stands : Stands config met r) (now : Nat) {a : Encounter} {fault : FeedError}
    (fatal : verdict config met a = some fault) :
    Client.meet config now r a = { r with fault := some fault } := by
  cases a with
  | entry e =>
    cases e with
    | error cause => cases fatal
    | ok m =>
      cases m with
      | pong label =>
        simp only [Client.meet, Reaction.dispatch, Reaction.pong, stands.rejected now fatal]
      | _ => cases fatal
  | close cause =>
    cases fatal
    rfl
  | broken reason =>
    cases fatal
    rfl
  | ended =>
    cases fatal
    rfl
  | pingDue =>
    obtain ⟨id, waits, rfl⟩ := Option.map_eq_some_iff.1 fatal
    obtain ⟨ping, outstanding, rfl⟩ := Option.map_eq_some_iff.1 (stands.awaited.trans waits)
    simp only [Client.meet, handle, Reaction.ping, KeepAlive.ping, outstanding]
  | firstNodeDue =>
    have unheard : announced met = false := by
      by_contra not
      simp [verdict, not] at fatal
    have waiting : r.session.awaitingFirstNode = true := by rw [stands.awaiting, unheard]; rfl
    simp only [verdict, unheard, Bool.false_eq_true, if_false, Option.some_inj] at fatal
    simp only [Client.meet, handle, waiting, if_true, fatal]
  | _ => cases fatal

end Stands

/-! ## 5. Runs -/

section Runs

variable {config : FeedConfig}

/-- A client stands as it should as long as nothing was fatal, and nothing was
left out. -/
theorem stands_of_harmless (tracker : Tracker) {before : List (Occurrence Encounter)}
    (harmless : Harmless config (whats before)) :
    Stands config (whats before) (undisturbed config (begun config tracker) before) ∧
      before.foldl (step config) (begun config tracker) =
        undisturbed config (begun config tracker) before := by
  induction before using List.reverseRecOn with
  | nil => exact ⟨stands_begun config tracker, rfl⟩
  | append_singleton before h ih =>
    rw [undisturbed, List.foldl_append, List.foldl_append]
    cases h with
    | meanwhile tracker' =>
      rw [whats_meanwhile] at harmless ⊢
      obtain ⟨⟨running, sent, awaiting, next, awaited, turns⟩, same⟩ := ih harmless
      rw [same]
      exact ⟨⟨running, sent, awaiting, next, awaited, turns⟩, rfl⟩
    | comes now a =>
      rw [whats_comes] at harmless ⊢
      obtain ⟨earlier, last⟩ := harmless_concat.1 harmless
      obtain ⟨stands, same⟩ := ih earlier
      refine ⟨stands.meet now last, ?_⟩
      show step config (before.foldl (step config) (begun config tracker)) (.comes now a) =
        meet config now (undisturbed config (begun config tracker) before) a
      rw [same]
      simp [step, stands.running]

/-- After a fault only the tracker goes on. -/
theorem foldl_step_of_fault {r : Reaction} {fault : FeedError} (stopped : r.fault = some fault)
    (later : List (Occurrence Encounter)) :
    later.foldl (step config) r =
      { r with tracker := later.foldl Occurrence.trackerAfter r.tracker } := by
  induction later generalizing r with
  | nil => rfl
  | cons h rest ih =>
    rw [List.foldl_cons, List.foldl_cons]
    cases h with
    | meanwhile tracker =>
      have stopped' : ({ r with tracker } : Reaction).fault = some fault := stopped
      exact ih stopped'
    | comes now a =>
      have idle : step config r (.comes now a) = r := by simp [step, stopped]
      rw [idle]
      exact ih stopped

/-- What a row comes to that ends somewhere. -/
theorem foldl_step_of_ends (tracker : Tracker) {all before : List (Occurrence Encounter)}
    {fault? : Option FeedError} (ends : Ends config all before fault?) :
    all.foldl (step config) (begun config tracker) =
      { undisturbed config (begun config tracker) before with
        fault := fault?
        tracker := (all.drop before.length).foldl Occurrence.trackerAfter
          (undisturbed config (begun config tracker) before).tracker } := by
  cases ends with
  | quiet harmless =>
    obtain ⟨stands, same⟩ := stands_of_harmless tracker harmless
    rw [same, List.drop_length, List.foldl_nil, ← stands.running]
  | @fatal before now a later fault harmless fatal =>
    obtain ⟨stands, same⟩ := stands_of_harmless tracker harmless
    have stops : step config (undisturbed config (begun config tracker) before) (.comes now a) =
        { undisturbed config (begun config tracker) before with fault := some fault } := by
      simpa [step, stands.running] using stands.meet_fatal now fatal
    rw [List.foldl_append, same, List.foldl_cons, stops, foldl_step_of_fault rfl,
      List.drop_left, List.foldl_cons]
    rfl

theorem awaiting_meet {r : Reaction} (announced : r.session.awaitingFirstNode = false) (now : Nat)
    (a : Encounter) : (meet config now r a).session.awaitingFirstNode = false := by
  cases a with
  | entry e =>
    cases e with
    | error cause => exact announced
    | ok m => exact (awaiting_dispatch now r m).trans (by rw [announced, Bool.false_and])
  | pingDue =>
    show (r.ping now).session.awaitingFirstNode = false
    unfold Reaction.ping
    cases r.session.keepAlive.ping now <;> exact announced
  | firstNodeDue => simp [meet, handle, announced]
  | _ => exact announced

/-- A client that has met an announcement goes on as one. -/
theorem awaiting_step {r : Reaction} (announced : r.session.awaitingFirstNode = false)
    (h : Occurrence Encounter) : (step config r h).session.awaitingFirstNode = false := by
  cases h with
  | meanwhile tracker => exact announced
  | comes now a =>
    cases stopped : r.fault with
    | some fault => simpa [step, stopped] using announced
    | none => simpa [step, stopped] using awaiting_meet announced now a

theorem awaiting_foldl_step {r : Reaction} (announced : r.session.awaitingFirstNode = false)
    (l : List (Occurrence Encounter)) :
    (l.foldl (step config) r).session.awaitingFirstNode = false := by
  induction l generalizing r with
  | nil => exact announced
  | cons h rest ih => exact ih (awaiting_step announced h)

theorem foldl_trackerAfter_unfold (tracker : Tracker) (occurrences : List (Occurrence FeedEvent)) :
    (occurrences.flatMap Occurrence.unfold).foldl Occurrence.trackerAfter tracker =
      occurrences.foldl Occurrence.trackerAfter tracker := by
  induction occurrences generalizing tracker with
  | nil => rfl
  | cons h rest ih =>
    rw [List.flatMap_cons, List.foldl_append, List.foldl_cons]
    cases h with
    | meanwhile tracker' => exact ih tracker'
    | comes now event =>
      have idle (l : List Encounter) :
          (l.map (Occurrence.comes now)).foldl Occurrence.trackerAfter tracker = tracker := by
        induction l with
        | nil => rfl
        | cons a rest ih => exact ih
      rw [Occurrence.unfold, idle]
      exact ih tracker

end Runs

end Client

end NodeWatch
