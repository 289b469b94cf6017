/-
NodeWatch.Proofs.Alternation — pings and pongs take turns.

A transcript of a keep-alive lists the calls that were made on it, each with
its answer and with the keep-alive before and after it.  What a transcript
says on its own, without a look at any keep-alive, is which pings were sent,
which pongs were taken, and so which ping is unanswered.

Main statement: whatever the calls are, pings and pongs that succeed take
turns, the ping number `k` has the id `k` and the pong number `k` answers it,
and a call fails just when it is out of turn or, a pong, carries another id
(`pings_alternate_with_pongs`).  Nothing here bounds the number of pings; the
counter never goes beyond it, so a word holds the counter of any session
with fewer than `2 ^ 64` pings.
-/
import Mathlib.Data.List.Induction
import NodeWatch.Feed.Session

namespace NodeWatch

namespace KeepAlive

/-! ## 1. Transcripts -/

/-- What may be asked of a keep-alive. -/
inductive Call where
  | ping (now : Nat)
  | pong (text : String) (now : Nat)
  deriving DecidableEq, Repr

/-- Whether a call asks for a ping. -/
def Call.isPing : Call → Bool
  | ping _ => true
  | pong _ _ => false

/-- What a call comes to: the id of a ping, or the time since the ping of a
pong, and the keep-alive from then on. -/
def perform (k : KeepAlive) : Call → Except FeedError (Nat × KeepAlive)
  | .ping now => k.ping now
  | .pong text now => k.pong text now

/-- A call that has been made. -/
structure Turn where
  before : KeepAlive
  call : Call
  answer : Except FeedError Nat
  after : KeepAlive

/-- Make a call.  One that fails hands on no keep-alive, so its caller keeps
the one it has. -/
def turn (k : KeepAlive) (c : Call) : Turn :=
  match k.perform c with
  | .ok (n, k') => ⟨k, c, .ok n, k'⟩
  | .error cause => ⟨k, c, .error cause, k⟩

/-- The calls that are made one after the other. -/
def transcript (k : KeepAlive) : List Call → List Turn
  | [] => []
  | c :: rest => k.turn c :: transcript (k.turn c).after rest

/-- The keep-alive after some calls. -/
def state (k : KeepAlive) (calls : List Call) : KeepAlive :=
  calls.foldl (fun k c => (k.turn c).after) k

theorem transcript_append (k : KeepAlive) (a b : List Call) :
    k.transcript (a ++ b) = k.transcript a ++ (k.state a).transcript b := by
  induction a generalizing k with
  | nil => rfl
  | cons c rest ih => simp [transcript, state, ih]

theorem state_append (k : KeepAlive) (a b : List Call) :
    k.state (a ++ b) = (k.state a).state b := by
  simp [state]

/-- What stands in a transcript has been asked of the keep-alive that the
calls before it led to. -/
theorem transcript_split {k : KeepAlive} {calls : List Call} {a b : List Turn} {t : Turn}
    (h : k.transcript calls = a ++ t :: b) :
    ∃ first c last, calls = first ++ c :: last ∧ a = k.transcript first ∧
      t = (k.state first).turn c := by
  induction calls generalizing k a with
  | nil => simp [transcript] at h
  | cons c rest ih =>
    cases a with
    | nil =>
      simp only [transcript, List.nil_append, List.cons.injEq] at h
      exact ⟨[], c, rest, rfl, rfl, h.1.symm⟩
    | cons u a =>
      simp only [transcript, List.cons_append, List.cons.injEq] at h
      obtain ⟨rfl, tail⟩ := h
      obtain ⟨first, c', last, rfl, rfl, rfl⟩ := ih tail
      exact ⟨c :: first, c', last, rfl, rfl, rfl⟩

/-! ## 2. What a transcript says -/

/-- Whether a call has succeeded. -/
def Turn.succeeded (t : Turn) : Bool :=
  t.answer.isOk

/-- The id of a ping that was sent, and its instant. -/
def Turn.sent? (t : Turn) : Option (Nat × Nat) :=
  match t.call, t.answer with
  | .ping now, .ok id => some (id, now)
  | _, _ => none

/-- The text of a pong that was taken, its instant and the time since its
ping. -/
def Turn.taken? (t : Turn) : Option (String × Nat × Nat) :=
  match t.call, t.answer with
  | .pong text now, .ok delay => some (text, now, delay)
  | _, _ => none

/-- The pings that were sent. -/
def pings (l : List Turn) : List (Nat × Nat) :=
  l.filterMap Turn.sent?

/-- The pongs that were taken. -/
def pongs (l : List Turn) : List (String × Nat × Nat) :=
  l.filterMap Turn.taken?

/-- The ping that no pong has answered: the last one, if there are more
pings than pongs. -/
def unanswered (l : List Turn) : Option (Nat × Nat) :=
  if (pongs l).length < (pings l).length then (pings l).getLast? else none

/-- What pings and pongs that take turns come to. -/
structure TakesTurns (l : List Turn) : Prop where
  /-- The calls that succeed are a ping, a pong, a ping, and so on. -/
  alternate : (l.filter Turn.succeeded).map (fun t => t.call.isPing) =
    (List.range (l.filter Turn.succeeded).length).map fun i => decide (i % 2 = 0)
  /-- The pings are numbered from zero. -/
  numbered : (pings l).map Prod.fst = List.range (pings l).length
  /-- Each pong that is taken carries the number of its ping, and comes back
  with the time since that ping. -/
  answered : ∀ i text (now delay : Nat), (pongs l)[i]? = some (text, now, delay) →
    pongId? text = some i ∧ ∃ sent : Nat, (pings l)[i]? = some (i, sent) ∧
      (delay : Int) = max 0 ((now : Int) - sent)
  /-- A ping fails just when the one before it is unanswered. -/
  missed : ∀ a t b now cause, l = a ++ t :: b → t.call = .ping now →
    (t.answer = .error cause ↔
      ∃ id sent, unanswered a = some (id, sent) ∧ cause = .missedPong id)
  /-- A pong fails just when no ping is unanswered or it carries another
  number. -/
  unexpected : ∀ a t b text now cause, l = a ++ t :: b → t.call = .pong text now →
    (t.answer = .error cause ↔
      (∀ id sent, unanswered a = some (id, sent) → pongId? text ≠ some id) ∧
        cause = .unexpectedPong ((unanswered a).map Prod.fst) text)
  /-- A call that fails changes nothing. -/
  unchanged : ∀ t ∈ l, t.succeeded = false → t.after = t.before
  /-- The counter never goes beyond the number of pings. -/
  counter : ∀ t ∈ l, t.after.nextId ≤ (pings l).length

/-! ## 3. One call -/

theorem pings_concat (l : List Turn) (t : Turn) :
    pings (l ++ [t]) = pings l ++ t.sent?.toList := by
  rw [pings, List.filterMap_append]
  cases h : t.sent? <;> simp [pings, h]

theorem pongs_concat (l : List Turn) (t : Turn) :
    pongs (l ++ [t]) = pongs l ++ t.taken?.toList := by
  rw [pongs, List.filterMap_append]
  cases h : t.taken? <;> simp [pongs, h]

/-- How a keep-alive stands after some pings and `n` pongs: it has counted the
pongs, and it waits just when there is one more ping. -/
inductive Keeps (sent : List (Nat × Nat)) (n : Nat) : KeepAlive → Prop
  | idle (even : sent.length = n) : Keeps sent n ⟨n, none⟩
  | waiting {instant : Nat} (odd : sent.length = n + 1) (last : sent.getLast? = some (n, instant)) :
      Keeps sent n ⟨n, some (n, instant)⟩

/-- What a keep-alive makes of a call after some pings and `n` pongs: it sends
a ping, takes a pong, or refuses and stays as it is. -/
inductive Takes (k : KeepAlive) (sent : List (Nat × Nat)) (n : Nat) : Turn → Prop
  | sends (now : Nat) (even : sent.length = n) (idle : k.outstanding = none) :
      Takes k sent n ⟨k, .ping now, .ok n, ⟨n, some (n, now)⟩⟩
  | takes (text : String) (now : Nat) {instant : Nat} (odd : sent.length = n + 1)
      (last : sent.getLast? = some (n, instant)) (waiting : k.outstanding = some (n, instant))
      (echo : pongId? text = some n) :
      Takes k sent n ⟨k, .pong text now, .ok (now - instant), ⟨n + 1, none⟩⟩
  | misses (now : Nat) {id instant : Nat} (waiting : k.outstanding = some (id, instant)) :
      Takes k sent n ⟨k, .ping now, .error (.missedPong id), k⟩
  | refuses (text : String) (now : Nat)
      (stray : ∀ id instant, k.outstanding = some (id, instant) → pongId? text ≠ some id) :
      Takes k sent n ⟨k, .pong text now,
        .error (.unexpectedPong (k.outstanding.map Prod.fst) text), k⟩

namespace Keeps

variable {sent : List (Nat × Nat)} {n : Nat} {k : KeepAlive}

theorem takes (h : Keeps sent n k) (c : Call) : Takes k sent n (k.turn c) := by
  cases h with
  | idle even =>
    cases c with
    | ping now => exact .sends now even rfl
    | pong text now => exact .refuses text now (by simp)
  | @waiting instant odd last =>
    cases c with
    | ping now => exact .misses now rfl
    | pong text now =>
      by_cases echo : pongId? text = some n
      · simp only [turn, perform, pong, if_pos echo]
        exact .takes text now odd last rfl echo
      · simp only [turn, perform, pong, if_neg echo]
        refine .refuses text now ?_
        intro id instant waiting
        cases waiting
        exact echo

theorem step {l : List Turn} (h : Keeps (pings l) (pongs l).length k) (c : Call) :
    Keeps (pings (l ++ [k.turn c])) (pongs (l ++ [k.turn c])).length (k.turn c).after := by
  have taken := h.takes c
  rw [pings_concat, pongs_concat]
  generalize k.turn c = t at taken
  cases taken with
  | sends now even idle =>
    simp only [Turn.sent?, Turn.taken?, Option.toList_some, Option.toList_none, List.append_nil]
    exact .waiting (by simp [even]) (by simp)
  | takes text now odd last waiting echo =>
    simp only [Turn.sent?, Turn.taken?, Option.toList_some, Option.toList_none, List.append_nil,
      List.length_append, List.length_singleton]
    exact .idle odd
  | misses now waiting => simpa [Turn.sent?, Turn.taken?] using h
  | refuses text now stray => simpa [Turn.sent?, Turn.taken?] using h

theorem count_le (h : Keeps sent n k) : k.nextId ≤ sent.length := by
  cases h with
  | idle even => exact Nat.le_of_eq even.symm
  | waiting odd last => simp [odd]

theorem outstanding {l : List Turn} (h : Keeps (pings l) (pongs l).length k) :
    k.outstanding = unanswered l := by
  unfold unanswered
  generalize pings l = sent at h
  generalize (pongs l).length = n at h
  cases h with
  | idle even => simp [even]
  | waiting odd last => simp [odd, last]

end Keeps

theorem keeps_transcript (calls : List Call) :
    Keeps (pings (start.transcript calls)) (pongs (start.transcript calls)).length
      (start.state calls) := by
  induction calls using List.reverseRecOn with
  | nil => exact .idle rfl
  | append_singleton calls c ih =>
    rw [transcript_append, state_append]
    exact ih.step c

/-! ## 4. Turns -/

/-- What one more call has to leave true of a transcript is true of every
transcript. -/
theorem transcript_induction {P : List Turn → Prop} (nil : P [])
    (concat : ∀ l k t, P l → Takes k (pings l) (pongs l).length t → P (l ++ [t]))
    (calls : List Call) : P (start.transcript calls) := by
  induction calls using List.reverseRecOn with
  | nil => exact nil
  | append_singleton calls c ih =>
    rw [transcript_append]
    exact concat _ _ _ ih ((keeps_transcript calls).takes c)

theorem length_succeeded (l : List Turn) :
    (l.filter Turn.succeeded).length = (pings l).length + (pongs l).length := by
  induction l with
  | nil => rfl
  | cons t rest ih =>
    obtain ⟨before, call, answer, after⟩ := t
    simp only [pings, pongs] at ih
    cases call <;> cases answer <;>
      simp [pings, pongs, Turn.succeeded, Turn.sent?, Turn.taken?, Except.isOk, Except.toBool,
        List.filter_cons, List.filterMap_cons, ih] <;> omega

theorem alternate_transcript (calls : List Call) :
    ((start.transcript calls).filter Turn.succeeded).map (fun t => t.call.isPing) =
      (List.range ((start.transcript calls).filter Turn.succeeded).length).map
        fun i => decide (i % 2 = 0) := by
  refine transcript_induction
    (P := fun l => (l.filter Turn.succeeded).map (fun t => t.call.isPing) =
      (List.range (l.filter Turn.succeeded).length).map fun i => decide (i % 2 = 0)) rfl ?_ calls
  intro l k t ih taken
  have total := length_succeeded l
  simp only [List.filter_append, List.map_append, List.length_append, ih]
  cases taken with
  | sends now even idle =>
    have turn : (l.filter Turn.succeeded).length % 2 = 0 := by omega
    simp [List.filter_cons, Turn.succeeded, Except.isOk, Except.toBool, Call.isPing,
      List.range_succ, turn]
  | takes text now odd last waiting echo =>
    have turn : (l.filter Turn.succeeded).length % 2 = 1 := by omega
    simp [List.filter_cons, Turn.succeeded, Except.isOk, Except.toBool, Call.isPing,
      List.range_succ, turn]
  | misses now waiting => simp [Turn.succeeded, Except.isOk, Except.toBool]
  | refuses text now stray => simp [Turn.succeeded, Except.isOk, Except.toBool]

theorem numbered_transcript (calls : List Call) :
    (pings (start.transcript calls)).map Prod.fst =
      List.range (pings (start.transcript calls)).length := by
  refine transcript_induction
    (P := fun l => (pings l).map Prod.fst = List.range (pings l).length) rfl ?_ calls
  intro l k t ih taken
  rw [pings_concat, List.map_append, ih]
  cases taken with
  | sends now even idle => simp [Turn.sent?, List.range_succ, even]
  | takes text now odd last waiting echo => simp [Turn.sent?]
  | misses now waiting => simp [Turn.sent?]
  | refuses text now stray => simp [Turn.sent?]

/-- What is asked of a pong that is taken as the number `i`. -/
def Answers (sent : List (Nat × Nat)) (i : Nat) : String × Nat × Nat → Prop
  | (text, now, delay) => pongId? text = some i ∧
    ∃ instant : Nat, sent[i]? = some (i, instant) ∧ (delay : Int) = max 0 ((now : Int) - instant)

theorem Answers.append {sent : List (Nat × Nat)} {i : Nat} {pong : String × Nat × Nat}
    (h : Answers sent i pong) (more : List (Nat × Nat)) : Answers (sent ++ more) i pong := by
  obtain ⟨echo, instant, found, delay⟩ := h
  obtain ⟨inside, -⟩ := List.getElem?_eq_some_iff.1 found
  refine ⟨echo, instant, ?_, delay⟩
  rw [List.getElem?_append_left inside, found]

theorem answered_transcript (calls : List Call) :
    ∀ i pong, (pongs (start.transcript calls))[i]? = some pong →
      Answers (pings (start.transcript calls)) i pong := by
  refine transcript_induction
    (P := fun l => ∀ i pong, (pongs l)[i]? = some pong → Answers (pings l) i pong) ?_ ?_ calls
  · intro i pong h
    simp [pongs] at h
  · intro l k t ih taken i pong h
    rw [pongs_concat] at h
    rw [pings_concat]
    cases taken with
    | takes text now odd last waiting echo =>
      simp only [Turn.taken?, Option.toList_some] at h
      simp only [Turn.sent?, Option.toList_none, List.append_nil]
      rcases Nat.lt_or_ge i (pongs l).length with old | new
      · rw [List.getElem?_append_left old] at h
        exact ih i pong h
      · -- The new pong answers the last ping.
        rw [List.getElem?_append_right new, List.getElem?_singleton] at h
        split at h
        · cases h
          have index : i = (pongs l).length := by omega
          rw [List.getLast?_eq_getElem?, odd] at last
          subst index
          exact ⟨echo, _, last, by omega⟩
        · cases h
    | sends now even idle =>
      simp only [Turn.taken?, Option.toList_none, List.append_nil] at h
      exact (ih i pong h).append _
    | misses now waiting =>
      simp only [Turn.taken?, Option.toList_none, List.append_nil] at h
      exact (ih i pong h).append _
    | refuses text now stray =>
      simp only [Turn.taken?, Option.toList_none, List.append_nil] at h
      exact (ih i pong h).append _

/-! ## 5. Whole runs -/

/-- What stands in a transcript has been asked of a keep-alive that stands
as the turns before it say. -/
theorem takes_of_split {calls : List Call} {a b : List Turn} {t : Turn}
    (h : start.transcript calls = a ++ t :: b) :
    ∃ k, Takes k (pings a) (pongs a).length t ∧ k.outstanding = unanswered a := by
  obtain ⟨first, c, last, -, rfl, rfl⟩ := transcript_split h
  have keeps := keeps_transcript first
  exact ⟨start.state first, keeps.takes c, keeps.outstanding⟩

theorem transcript_takesTurns (calls : List Call) : TakesTurns (start.transcript calls) where
  alternate := alternate_transcript calls
  numbered := numbered_transcript calls
  answered i text now delay h := answered_transcript calls i (text, now, delay) h
  missed := by
    intro a t b now cause place ping
    obtain ⟨k, taken, outstanding⟩ := takes_of_split place
    rw [← outstanding]
    cases taken with
    | sends now' even idle => simp [idle]
    | misses now' waiting => simp [waiting, eq_comm]
    | takes text now' odd last waiting echo => cases ping
    | refuses text now' stray => cases ping
  unexpected := by
    intro a t b text now cause place pong
    obtain ⟨k, taken, outstanding⟩ := takes_of_split place
    rw [← outstanding]
    cases taken with
    | sends now' even idle => cases pong
    | misses now' waiting => cases pong
    | takes text' now' odd last waiting echo =>
      cases pong
      simp [waiting, echo]
    | refuses text' now' stray =>
      cases pong
      constructor
      · intro same
        exact ⟨stray, (Except.error.inj same).symm⟩
      · rintro ⟨-, rfl⟩
        rfl
  unchanged := by
    intro t member failed
    obtain ⟨a, b, place⟩ := List.append_of_mem member
    obtain ⟨k, taken, -⟩ := takes_of_split place
    cases taken with
    | sends now even idle => cases failed
    | takes text now odd last waiting echo => cases failed
    | misses now waiting => rfl
    | refuses text now stray => rfl
  counter := by
    intro t member
    obtain ⟨a, b, place⟩ := List.append_of_mem member
    obtain ⟨first, c, last, -, rfl, rfl⟩ := transcript_split place
    have upTo := ((keeps_transcript first).step c).count_le
    rw [place, List.append_cons, pings, List.filterMap_append, List.length_append]
    exact Nat.le_trans upTo (Nat.le_add_right _ _)

/-! ## 6. Sessions -/

/-- Make a call in a session: send a ping, or take the pong of a message. -/
def Call.inSession (r : Reaction) : Call → Reaction
  | ping now => r.ping now
  | pong text now => r.dispatch now (.pong text)

/-- What a session tells of a turn of its keep-alive. -/
def Turn.notices (t : Turn) : List Notice :=
  match t.call, t.answer with
  | .ping _, .ok id => [.pinging id]
  | .pong text _, .ok delay => [.pongTaken text delay]
  | _, .error _ => []

/-- What a session has come to with a turn of its keep-alive. -/
def Turn.inSession (t : Turn) (r : Reaction) : Reaction :=
  { r with
    session := { r.session with keepAlive := t.after }
    notices := r.notices ++ t.notices
    sent := r.sent ++ t.sent?.toList.map fun ping => Command.ping ping.1
    fault := match t.answer with
      | .ok _ => r.fault
      | .error cause => some cause }

theorem inSession_turn (r : Reaction) (c : Call) :
    c.inSession r = (r.session.keepAlive.turn c).inSession r := by
  cases c with
  | ping now =>
    simp only [Call.inSession, Reaction.ping, turn, perform]
    cases answer : r.session.keepAlive.ping now with
    | ok sent => rfl
    | error cause => simp [Turn.inSession, Turn.sent?, Turn.notices]
  | pong text now =>
    simp only [Call.inSession, Reaction.dispatch, Reaction.pong, turn, perform]
    cases answer : r.session.keepAlive.pong text now with
    | ok taken => simp [Turn.inSession, Turn.sent?, Turn.notices, Reaction.notice,
        Reaction.withKeepAlive]
    | error cause => simp [Turn.inSession, Turn.sent?, Turn.notices]

/-- Whatever is asked of a keep-alive, pings and pongs take turns; and a
session asks nothing else of it, sends a ping just when there is one, tells of
the calls that succeed, and ends with the fault of the call that fails. -/
theorem pings_alternate_with_pongs (calls : List Call) :
    TakesTurns (start.transcript calls) ∧
      ∀ (r : Reaction) (c : Call), c.inSession r = (r.session.keepAlive.turn c).inSession r :=
  ⟨transcript_takesTurns calls, inSession_turn⟩

end KeepAlive

end NodeWatch
