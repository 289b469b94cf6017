/-
NodeWatch.Proofs.FirstFault — the first fault decides what a client comes to.

Main statement: whatever happens, in any order, a client does everything up to
the first thing that is fatal, its run ends with the fault of that one, and
nothing later has an effect; its pings are numbered without a gap, and a client
that has met an announcement never waits for a first node again
(`first_fault_ends`).

What a connection does on a timeline, with its timers and tasks, is such a run
(`exists_occurrences`): a task never touches the session, and what an event
leads to does not depend on the reaction it comes after.
-/
import NodeWatch.Proofs.Encounters
import NodeWatch.Timeline.Connection

namespace NodeWatch

open Client (Occurrence Encounter begun lives)

/-! ## 1. Connections -/

namespace Reaction

theorem after_after (a b c : Reaction) : (a.after b).after c = a.after (b.after c) := by
  simp [after]

theorem after_opened (r : Reaction) (running : r.fault = none) :
    r.after (opened r.tracker r.session) = r := by
  obtain ⟨tracker, session, notices, jobs, sent, fault⟩ := r
  obtain rfl : fault = none := running
  simp [after, opened]

theorem ping_eq_after (now : Nat) (r : Reaction) (running : r.fault = none) :
    r.ping now = r.after ((opened r.tracker r.session).ping now) := by
  obtain ⟨tracker, session, notices, jobs, sent, fault⟩ := r
  obtain rfl : fault = none := running
  cases answer : session.keepAlive.ping now <;>
    simp [ping, send, notice, withKeepAlive, after, opened, answer]

end Reaction

namespace Client

/-- What something leads to depends on the tracker and the session alone. -/
theorem step_eq_after (config : FeedConfig) (r : Reaction) (running : r.fault = none)
    (h : Occurrence Encounter) :
    step config r h = r.after (step config (.opened r.tracker r.session) h) := by
  have opens : (Reaction.opened r.tracker r.session).fault = none := rfl
  cases h with
  | meanwhile tracker => simp [step, Reaction.after, Reaction.opened, running]
  | comes now a =>
    simp only [step, running, opens, Option.isSome_none, Bool.false_eq_true, if_false]
    cases a with
    | entry e =>
      cases e with
      | ok m => exact Reaction.dispatch_eq_after now r running m
      | error cause => simp [meet, Reaction.notice, Reaction.after, Reaction.opened, running]
    | pingDue => exact Reaction.ping_eq_after now r running
    | firstNodeDue =>
      cases waiting : r.session.awaitingFirstNode with
      | true => simp [meet, handle, Reaction.after, Reaction.opened, waiting]
      | false => simpa [meet, handle, Reaction.opened, waiting] using (r.after_opened running).symm
    | control => exact (r.after_opened running).symm
    | _ => simp [meet, handle, Reaction.notice, Reaction.after, Reaction.opened, running]

theorem foldl_step_eq_after (config : FeedConfig) (r : Reaction) (running : r.fault = none)
    (l : List (Occurrence Encounter)) :
    l.foldl (step config) r =
      r.after (l.foldl (step config) (.opened r.tracker r.session)) := by
  induction l generalizing r with
  | nil => exact (r.after_opened running).symm
  | cons h rest ih =>
    have one := step_eq_after config r running h
    rw [List.foldl_cons, List.foldl_cons, one]
    generalize step config (.opened r.tracker r.session) h = x
    cases stopped : x.fault with
    | none =>
      rw [ih (r.after x) stopped, ih x stopped, Reaction.after_after]
      rfl
    | some fault =>
      have stopped' : (r.after x).fault = some fault := stopped
      rw [foldl_step_of_fault stopped, foldl_step_of_fault stopped']
      rfl

theorem lives_eq_after (config : FeedConfig) (r : Reaction) (running : r.fault = none)
    (occurrences : List (Occurrence FeedEvent)) :
    lives config r occurrences =
      r.after (lives config (.opened r.tracker r.session) occurrences) := by
  rw [lives_eq, lives_eq, foldl_step_eq_after config r running]

/-- Something that comes, and its instant. -/
def Occurrence.comes? {α : Type} : Occurrence α → Option (Nat × α)
  | .comes now what => some (now, what)
  | .meanwhile _ => none

/-- Events as occurrences. -/
def comes (events : List (Nat × FeedEvent)) : List (Occurrence FeedEvent) :=
  events.map fun event => .comes event.1 event.2

theorem run_eq (config : FeedConfig) (r : Reaction) (events : List (Nat × FeedEvent)) :
    run config r events = lives config r (comes events) := by
  rw [run, lives, comes, List.foldl_map]
  rfl

theorem comes?_comes (events : List (Nat × FeedEvent)) :
    (comes events).filterMap Occurrence.comes? = events := by
  rw [comes, List.filterMap_map]
  exact List.filterMap_some

end Client

namespace Timeline

/-- Tasks do not touch the session. -/
theorem session_turn (t : Timeline) : t.turn.session = t.session := by
  have after : ∀ (t : Timeline) delay r, (t.after delay r).session = t.session := by
    intro t delay r
    unfold Timeline.after
    split <;> rfl
  have serve : ∀ (t : Timeline) id task, (t.serve id task).session = t.session := by
    intro t id task
    unfold Timeline.serve
    dsimp only
    cases task.need t.tracker.policy <;> exact after _ _ _
  unfold turn
  cases t.ready with
  | nil => rfl
  | cons r rest =>
    dsimp only
    cases r.served with
    | none => exact serve _ _ _
    | some refusal =>
      dsimp only
      split
      · exact serve _ _ _
      · rfl

theorem session_settle (t : Timeline) : t.settle.session = t.session := by
  have turns : ∀ n (t : Timeline), (turns n t).session = t.session := by
    intro n
    induction n with
    | zero => intro t; rfl
    | succ n ih =>
      intro t
      unfold Timeline.turns
      split
      · rfl
      · rw [ih, session_turn]
  exact turns _ t

theorem session_jump (t : Timeline) (delay : Nat) : (t.jump delay).session = t.session :=
  session_settle _

end Timeline

namespace Connection

/-- What is done with a connection. -/
inductive Visit where
  | events (events : List FeedEvent)
  | wait (delay : Nat)

/-- The events that its client hears of. -/
def heard (c : Connection) : Visit → List (Nat × FeedEvent)
  | .events events => events.map fun event => (c.timeline.now, event)
  | .wait delay =>
    let now := (c.timeline.jump delay).now
    (c.timers.due now).1.map fun event => (now, event)

/-- The commands that are sent, and the connection after that. -/
def visit (c : Connection) : Visit → List String × Connection
  | .events events => c.handle events
  | .wait delay => c.wait delay

/-- A connection, with what it has sent and heard. -/
structure Life where
  sent : List String
  heard : List (Nat × FeedEvent)
  connection : Connection

/-- Nothing is done with a connection whose client has ended. -/
def Life.go (l : Life) (v : Visit) : Life :=
  if l.connection.fault.isSome then l
  else
    { sent := l.sent ++ (l.connection.visit v).1
      heard := l.heard ++ l.connection.heard v
      connection := (l.connection.visit v).2 }

/-- The life of a connection on a timeline, with a new session. -/
def life (config : FeedConfig) (t : Timeline) (visits : List Visit) : Life :=
  let (sent, connection) := establish config { t with session := .start }
  visits.foldl Life.go { sent, heard := [], connection }

/-- Whether a life is the run of a client that goes through some occurrences. -/
structure Life.IsRun (config : FeedConfig) (tracker : Tracker) (l : Life)
    (occurrences : List (Occurrence FeedEvent)) : Prop where
  configured : l.connection.config = config
  heard : occurrences.filterMap Occurrence.comes? = l.heard
  sent : (lives config (begun config tracker) occurrences).sent = l.sent
  fault : (lives config (begun config tracker) occurrences).fault = l.connection.fault
  session : (lives config (begun config tracker) occurrences).session =
    l.connection.timeline.session
  tracker : (lives config (begun config tracker) occurrences).tracker =
    l.connection.timeline.tracker

theorem handle_eq (c : Connection) (events : List FeedEvent) :
    c.handle events =
      let r := Client.run c.config (.opened c.timeline.tracker c.timeline.session)
        (events.map fun event => (c.timeline.now, event))
      (r.sent, { c with timeline := (c.timeline.absorb r).settle, fault := r.fault }) :=
  rfl

theorem wait_eq (c : Connection) (delay : Nat) :
    c.wait delay =
      let due := c.timers.due (c.timeline.jump delay).now
      { c with timeline := c.timeline.jump delay, timers := due.2 }.handle due.1 := by
  unfold wait
  dsimp only

theorem Life.IsRun.handle {config : FeedConfig} {tracker : Tracker} {l : Life}
    {occurrences : List (Occurrence FeedEvent)} (run : l.IsRun config tracker occurrences)
    (running : l.connection.fault = none) (events : List FeedEvent) :
    ∃ more, IsRun config tracker
      { sent := l.sent ++ (l.connection.handle events).1
        heard := l.heard ++ events.map fun event => (l.connection.timeline.now, event)
        connection := (l.connection.handle events).2 } (occurrences ++ more) := by
  obtain ⟨rfl, heard, sent, fault, session, same⟩ := run
  let c := l.connection
  let told := events.map fun event => (c.timeline.now, event)
  let r := Client.run c.config (.opened c.timeline.tracker c.timeline.session) told
  let meanwhile := (c.timeline.absorb r).settle.tracker
  refine ⟨Client.comes told ++ [.meanwhile meanwhile], ?_⟩
  have goes : lives c.config (begun c.config tracker)
      (occurrences ++ (Client.comes told ++ [.meanwhile meanwhile])) =
        { (lives c.config (begun c.config tracker) occurrences).after r with
          tracker := meanwhile } := by
    have next : lives c.config (lives c.config (begun c.config tracker) occurrences)
        (Client.comes told) = (lives c.config (begun c.config tracker) occurrences).after r := by
      rw [Client.lives_eq_after _ _ (fault.trans running), session, same, ← Client.run_eq]
    rw [lives, List.foldl_append, List.foldl_append]
    exact congrArg (fun x : Reaction => { x with tracker := meanwhile }) next
  rw [handle_eq]
  refine
    { configured := rfl
      heard := ?_
      sent := ?_
      fault := ?_
      session := ?_
      tracker := ?_ }
  · rw [List.filterMap_append, List.filterMap_append, heard, Client.comes?_comes]
    exact congrArg _ (List.append_nil _)
  · rw [goes]
    exact congrArg (· ++ r.sent) sent
  · rw [goes]
    rfl
  · rw [goes]
    show r.session = ((c.timeline.absorb r).settle).session
    rw [Timeline.session_settle, Timeline.absorb_eq]
  · rw [goes]

/-- While a client waits, only tasks go on. -/
theorem Life.IsRun.pass {config : FeedConfig} {tracker : Tracker} {l : Life}
    {occurrences : List (Occurrence FeedEvent)} (run : l.IsRun config tracker occurrences)
    (delay : Nat) (timers : Client.Timers) :
    IsRun config tracker
      { l with connection :=
        { l.connection with timeline := l.connection.timeline.jump delay, timers } }
      (occurrences ++ [.meanwhile (l.connection.timeline.jump delay).tracker]) := by
  obtain ⟨same, heard, sent, fault, session, -⟩ := run
  have goes : lives config (begun config tracker)
      (occurrences ++ [.meanwhile (l.connection.timeline.jump delay).tracker]) =
        { lives config (begun config tracker) occurrences with
          tracker := (l.connection.timeline.jump delay).tracker } := by
    rw [lives, List.foldl_append]
    rfl
  refine ⟨same, ?_, ?_, ?_, ?_, ?_⟩
  · rw [List.filterMap_append, heard]
    exact List.append_nil _
  · rw [goes]
    exact sent
  · rw [goes]
    exact fault
  · rw [goes]
    exact session.trans (Timeline.session_jump _ _).symm
  · rw [goes]

/-- The next visit goes on with the run. -/
theorem Life.IsRun.go {config : FeedConfig} {tracker : Tracker} {l : Life}
    {occurrences : List (Occurrence FeedEvent)} (run : l.IsRun config tracker occurrences)
    (v : Visit) : ∃ occurrences', (l.go v).IsRun config tracker occurrences' := by
  unfold Life.go
  cases ended : l.connection.fault with
  | some fault => exact ⟨occurrences, by simpa using run⟩
  | none =>
    simp only [Option.isSome_none, Bool.false_eq_true, if_false]
    cases v with
    | events events =>
      obtain ⟨more, run'⟩ := run.handle ended events
      exact ⟨_, run'⟩
    | wait delay =>
      -- time passes before the timers are read, and the tasks go on in it
      let due := l.connection.timers.due (l.connection.timeline.jump delay).now
      obtain ⟨more, run'⟩ := (run.pass delay due.2).handle ended due.1
      rw [visit, wait_eq]
      exact ⟨_, run'⟩

/-- What a connection does on a timeline is the run of a client, where tasks
have meanwhile done what they do there. -/
theorem exists_occurrences (config : FeedConfig) (t : Timeline) (visits : List Visit) :
    ∃ occurrences, (life config t visits).IsRun config t.tracker occurrences := by
  unfold life
  dsimp only
  induction visits using List.reverseRecOn with
  | nil =>
    refine ⟨[], rfl, rfl, rfl, rfl, ?_, ?_⟩
    · show Session.start = _
      simp [establish, Timeline.react, Client.connect, Reaction.notice, Reaction.send]
    · show t.tracker = _
      simp [establish, Timeline.react, Client.connect, Reaction.notice, Reaction.send]
  | append_singleton visits v ih =>
    obtain ⟨occurrences, run⟩ := ih
    rw [List.foldl_append, List.foldl_cons, List.foldl_nil]
    exact run.go v

end Connection

/-! ## 2. The first fault -/

namespace Client

/-- What the run of a client comes to that meets no fault before the end of
`before`, and then the first one, if there is any. -/
structure Outcome (config : FeedConfig) (tracker : Tracker)
    (occurrences : List (Occurrence FeedEvent)) (before : List (Occurrence Encounter))
    (fault? : Option FeedError) : Prop where
  /-- Nothing before is fatal, and the next thing is, or there is none. -/
  ends : Ends config (occurrences.flatMap Occurrence.unfold) before fault?
  /-- The run ends with this fault. -/
  fault : (lives config (begun config tracker) occurrences).fault = fault?
  /-- All before the fault has been done, one thing after the other, and nothing
  else; only tasks and snapshots go on. -/
  effect : lives config (begun config tracker) occurrences =
    { undisturbed config (begun config tracker) before with
      fault := fault?
      tracker := ((occurrences.flatMap Occurrence.unfold).drop before.length).foldl
        Occurrence.trackerAfter (undisturbed config (begun config tracker) before).tracker }
  /-- The pings are numbered from zero, without a gap. -/
  sent : (lives config (begun config tracker) occurrences).sent =
    Command.subscribe config.chain :: (List.range (pings (whats before))).map Command.ping
  /-- The counter of the pings fits a word of 64 bits, with fewer than `2 ^ 64` pings. -/
  words : pings (whats before) < 2 ^ 64 →
    (lives config (begun config tracker) occurrences).session.keepAlive.nextId < 2 ^ 64
  /-- The client waits for a first node just if none has been announced. -/
  awaiting : (lives config (begun config tracker) occurrences).session.awaitingFirstNode =
    !announced (whats before)
  /-- The time for the first node ends a run only if none has been announced. -/
  unannounced : ∀ timeout,
    (lives config (begun config tracker) occurrences).fault = some (.noNodesAnnounced timeout) →
      timeout = config.firstNodeTimeout * 1000 ∧ announced (whats before) = false
  /-- Nothing that comes after a fault has an effect. -/
  stopped : fault?.isSome = true → ∀ later,
    lives config (begun config tracker) (occurrences ++ later) =
      { lives config (begun config tracker) occurrences with
        tracker := later.foldl Occurrence.trackerAfter
          (lives config (begun config tracker) occurrences).tracker }
  /-- A client that has met an announcement does not wait for a first node
  again. -/
  settled : announced (whats before) = true → ∀ later,
    (lives config (begun config tracker) (occurrences ++ later)).session.awaitingFirstNode = false

/-- How messages that are not text count. -/
structure Frames (config : FeedConfig) (now : Nat) (r : Reaction) : Prop where
  /-- A binary message that is text counts as that text. -/
  text : ∀ frame : String,
    react config now r (.binary frame.toUTF8) = react config now r (.text frame)
  /-- Any other binary message leads to a notice and to nothing else. -/
  garbled : ∀ bytes : ByteArray, (∃ frame : String, frame.toUTF8 = bytes) ∨
    ∃ fault, react config now r (.binary bytes) =
      if r.fault.isSome then r else r.notice (.binarySkipped fault)
  /-- A control frame leads to nothing. -/
  control : react config now r .control = r

theorem Frames.hold (config : FeedConfig) (now : Nat) (r : Reaction) : Frames config now r where
  text := fun _ => react_binary config now r (Text.decodeUtf8_eq_ok_iff.2 rfl)
  garbled := by
    intro bytes
    cases decoded : Text.decodeUtf8 bytes with
    | ok frame => exact Or.inl ⟨frame, Text.decodeUtf8_eq_ok_iff.1 decoded⟩
    | error fault => exact Or.inr ⟨fault, by simp only [react, handle, decoded]⟩
  control := by simp [react, handle]

theorem harmless_of_ends {config : FeedConfig} {all before : List (Occurrence Encounter)}
    {fault? : Option FeedError} (ends : Ends config all before fault?) :
    Harmless config (whats before) := by
  cases ends with
  | quiet harmless => exact harmless
  | fatal harmless _ => exact harmless

theorem exists_verdict_of_ends {config : FeedConfig} {all before : List (Occurrence Encounter)}
    {fault : FeedError} (ends : Ends config all before (some fault)) :
    ∃ a, verdict config (whats before) a = some fault := by
  cases ends with
  | fatal _ fatal => exact ⟨_, fatal⟩

/-- Only the end of the time for the first node brings this fault. -/
theorem verdict_noNodesAnnounced {config : FeedConfig} {met : List Encounter} {a : Encounter}
    {timeout : Nat} (fatal : verdict config met a = some (.noNodesAnnounced timeout)) :
    timeout = config.firstNodeTimeout * 1000 ∧ announced met = false := by
  cases a with
  | entry e =>
    rcases e with _ | m
    · cases fatal
    · cases m with
      | pong label =>
        simp only [verdict] at fatal
        split at fatal <;> cases fatal
      | _ => cases fatal
  | pingDue =>
    obtain ⟨id, -, same⟩ := Option.map_eq_some_iff.1 fatal
    cases same
  | firstNodeDue =>
    simp only [verdict] at fatal
    split at fatal
    · cases fatal
    · next unheard =>
      cases fatal
      exact ⟨rfl, Bool.eq_false_iff.2 unheard⟩
  | _ => cases fatal

theorem exists_outcome (config : FeedConfig) (tracker : Tracker)
    (occurrences : List (Occurrence FeedEvent)) :
    ∃ before fault?, Outcome config tracker occurrences before fault? := by
  obtain ⟨before, fault?, ends⟩ := exists_ends config (occurrences.flatMap Occurrence.unfold)
  have effect := foldl_step_of_ends tracker ends
  rw [← lives_eq] at effect
  have fault : (lives config (begun config tracker) occurrences).fault = fault? := by rw [effect]
  have stands := (stands_of_harmless tracker (harmless_of_ends ends)).1
  have awaiting : (lives config (begun config tracker) occurrences).session.awaitingFirstNode =
      !announced (whats before) := by
    rw [effect]
    exact stands.awaiting
  have goes (later : List (Occurrence FeedEvent)) :
      lives config (begun config tracker) (occurrences ++ later) =
        (later.flatMap Occurrence.unfold).foldl (step config)
          (lives config (begun config tracker) occurrences) := by
    rw [← lives_eq, lives, List.foldl_append]
    rfl
  refine ⟨before, fault?,
    { ends, fault, effect, awaiting
      sent := ?_
      words := ?_
      unannounced := ?_
      stopped := ?_
      settled := ?_ }⟩
  · rw [effect]
    exact stands.sent
  · intro few
    rw [effect]
    exact Nat.lt_of_le_of_lt stands.nextId_le few
  · intro timeout unfound
    rw [fault] at unfound
    subst unfound
    obtain ⟨a, fatal⟩ := exists_verdict_of_ends ends
    exact verdict_noNodesAnnounced fatal
  · intro ended later
    obtain ⟨cause, rfl⟩ := Option.isSome_iff_exists.1 ended
    rw [goes, foldl_step_of_fault fault, foldl_trackerAfter_unfold]
  · intro heard later
    rw [goes]
    refine awaiting_foldl_step ?_ _
    rw [awaiting, heard]
    rfl

/-- The first fault ends the run of a client, whatever comes and in whatever
order, and whatever tasks and snapshots make of the tracker in between: all
before it has been done, and nothing after it is.  What a connection does on
any timeline, with its timers and its tasks, is such a run. -/
theorem first_fault_ends (config : FeedConfig) :
    (∀ (tracker : Tracker) (occurrences : List (Occurrence FeedEvent)),
      ∃ before fault?, Outcome config tracker occurrences before fault?) ∧
      (∀ (now : Nat) (r : Reaction), Frames config now r) ∧
      ∀ (t : Timeline) (visits : List Connection.Visit),
        ∃ occurrences, (Connection.life config t visits).IsRun config t.tracker occurrences :=
  ⟨exists_outcome config, Frames.hold config, Connection.exists_occurrences config⟩

/-- A ping is answered, and the next one is not. -/
example (config : FeedConfig) (tracker : Tracker) :
    (lives config (begun config tracker) [.comes 10 .pingDue, .comes 12 (.text "[15, \"0\"]"),
      .comes 20 .pingDue, .comes 30 .pingDue, .comes 31 .ended]).fault = some (.missedPong 1) :=
  rfl

end Client

end NodeWatch
