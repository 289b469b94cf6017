/-
NodeWatch.Proofs.Accounting — a flush accounts for every node.

For each reading of its snapshot a flush asks the store twice: for the record of
the node, and to append the entry.  Any of these calls may fail, and between two
of them anything may become of the tracker.  A lookup that fails costs its entry
the uptime, like a record that is not there or does not know it
(`Meeting.startup?`); an entry that is not taken is counted.  Neither has a part
in any other entry.

Main statement: as long as every uptime fits its word, a flush goes through the
tracked nodes in the order of their durable ids, with two requests for each of
them, and reports how many of the entries were taken and how many were not
(`flush_accounts`).  If nothing else goes on, each entry is what the store knew
of its node in the beginning, and the registry is left with its averages empty
and is otherwise as it was, whatever failed.
-/
import Mathlib.Data.Bool.Count
import NodeWatch.Proofs.System.Course
import NodeWatch.Proofs.Uptime

namespace NodeWatch

/-! ## 1. What a flush meets -/

namespace Meeting

/-- When a node was started, as far as the call for its record tells. -/
def startup? (m : Meeting) (d : DurableId) : Option Int64 :=
  match m.tracker.find m.refusal d with
  | .ok (some record) => record.profile.startup
  | _ => none

/-- How long a node has been up, as far as the call for its record tells. -/
def uptime? (m : Meeting) (now : Int64) (d : DurableId) : Option Int64 :=
  (m.startup? d).map fun startup => Int64.ofInt (now.toInt - startup.toInt)

/-- Whether that fits its word. -/
def Bears (m : Meeting) (now : Int64) (d : DurableId) : Prop :=
  ∀ startup ∈ m.startup? d, Word.FitsSigned (now.toInt - startup.toInt)

-- Named, since a search may find the instance that goes through all words.
instance (m : Meeting) (now : Int64) (d : DurableId) : Decidable (m.Bears now d) :=
  Option.decidableForallMem (m.startup? d)

/-- Whether an entry is taken. -/
def takes (m : Meeting) (entry : HistoryEntry) : Bool :=
  (m.tracker.append m.refusal entry).isOk

variable {m m' : Meeting} {now : Int64}

theorem startupOf_find (m : Meeting) (d : DurableId) :
    (Flushing.startupOf d (m.tracker.find m.refusal d)).1 = m.startup? d := by
  simp only [Flushing.startupOf, startup?]
  cases m.tracker.find m.refusal d with
  | error cause => rfl
  | ok found => cases found <;> rfl

/-- Only the profile of the record has a part in the answer, and whether the call
is refused. -/
theorem uptime?_congr {d : DurableId} (refused : m.refusal = m'.refusal)
    (same : m.tracker.store.profile? d = m'.tracker.store.profile? d) :
    m.uptime? now d = m'.uptime? now d := by
  rw [uptime?, uptime?, ← startupOf_find, ← startupOf_find, ← refused,
    Flushing.startupOf_agrees same]

theorem toEntry_of_bears {r : Reading} (bears : m.Bears now r.values.durableId) :
    r.toEntry now (m.startup? r.values.durableId) =
      .ok (r.entry now (m.uptime? now r.values.durableId)) := by
  rw [Reading.toEntry_eq, uptime?]
  cases known : m.startup? r.values.durableId with
  | none => rfl
  | some startup =>
    have fits := bears startup known
    simp only [Option.mapM_some, Word.subtract, Word.signed, if_pos fits]
    rfl

end Meeting

namespace Report

/-- With one more entry that was taken, or was not. -/
def count (report : Report) (taken : Bool) : Report :=
  if taken then report.wrote else report.missed

theorem foldl_count (report : Report) (taken : List Bool) :
    taken.foldl count report =
      ⟨report.tracked, report.written + taken.count true, report.failed + taken.count false⟩ := by
  induction taken generalizing report with
  | nil => rfl
  | cons first rest ih =>
    rw [List.foldl_cons, ih]
    cases first <;> simp [count, Report.wrote, Report.missed] <;> omega

end Report

/-! ## 2. Steps -/

/-- A step leaves alone what the registry holds, and the profiles of the store. -/
structure Visit.Spares (v : Visit) : Prop where
  registry : v.left.registry = v.met.registry
  profiles : v.left.store.profile? = v.met.store.profile?

namespace Flushing

variable {now : Int64} {m : Meeting} {instant : Nat} {rest : List Reading} {report : Report}

/-- The step that reads a record comes to the entry of its reading. -/
theorem step_finding {r : Reading} (bears : m.Bears now r.values.durableId) :
    ((Job.flushing (.finding now r rest report)).step m.tracker m.refusal).progress =
      .running (.flushing (.appending now (r.entry now (m.uptime? now r.values.durableId))
        rest report)) := by
  simp only [step_flushing, Step.map, step, Meeting.startupOf_find, Meeting.toEntry_of_bears bears]

theorem spares_finding (r : Reading) :
    Visit.Spares ⟨instant, .flushing (.finding now r rest report), m.tracker,
      ((Job.flushing (.finding now r rest report)).step m.tracker m.refusal).tracker⟩ := by
  simp only [step_flushing, Step.map, finding_tracker]
  exact ⟨rfl, rfl⟩

/-- The step that appends an entry counts it, and goes on to the next reading. -/
theorem step_appending (entry : HistoryEntry) :
    ((Job.flushing (.appending now entry rest report)).step m.tracker m.refusal).progress =
      onward now (report.count (m.takes entry)) rest := by
  rw [step_flushing]
  refine map_next ?_
  simp only [step, Meeting.takes]
  cases m.tracker.append m.refusal entry <;> rfl

theorem spares_appending (entry : HistoryEntry) :
    Visit.Spares ⟨instant, .flushing (.appending now entry rest report), m.tracker,
      ((Job.flushing (.appending now entry rest report)).step m.tracker m.refusal).tracker⟩ := by
  simp only [step_flushing, Step.map, step]
  cases answer : m.tracker.append m.refusal entry with
  | error cause => exact ⟨rfl, rfl⟩
  | ok t =>
    rw [(Tracker.append_ok answer).2]
    exact ⟨rfl, funext (m.tracker.store.appended_records entry).2⟩

/-! ## 3. Courses -/

/-- The entries of readings; the record of each is read at every other step. -/
def entries (now : Int64) (s : Surroundings) (readings : List Reading) : List HistoryEntry :=
  readings.mapIdx fun i r => r.entry now ((s (2 * i)).uptime? now r.values.durableId)

/-- Which of the entries are taken; each is appended after the step that has read
its record. -/
def taken (now : Int64) (s : Surroundings) (readings : List Reading) : List Bool :=
  (entries now s readings).mapIdx fun i entry => (s (2 * i + 1)).takes entry

variable {s : Surroundings}

theorem entries_cons (r : Reading) :
    entries now s (r :: rest) = r.entry now ((s 0).uptime? now r.values.durableId) ::
      entries now (s.drop 2) rest := by
  simp [entries, List.mapIdx_cons, Surroundings.drop, Nat.mul_add, Nat.add_comm]

theorem taken_cons (r : Reading) :
    taken now s (r :: rest) =
      (s 1).takes (r.entry now ((s 0).uptime? now r.values.durableId)) ::
        taken now (s.drop 2) rest := by
  rw [taken, entries_cons]
  simp [taken, List.mapIdx_cons, Surroundings.drop, Nat.mul_add, Nat.add_comm, Nat.add_left_comm]

theorem length_taken (now : Int64) (s : Surroundings) (readings : List Reading) :
    (taken now s readings).length = readings.length := by
  simp [taken, entries]

/-- A flush has gone through its readings. -/
structure GoneThrough (now : Int64) (s : Surroundings) (readings : List Reading)
    (report : Report) (c : Course) : Prop where
  length : c.visits.length = 2 * readings.length
  requests : c.requests = (entries now s readings).flatMap fun e => [.find e.node, .append e]
  ended : c.progress = .ended (.flushed ((taken now s readings).foldl Report.count report))
  spared : ∀ v ∈ c.visits, v.Spares

theorem goneThrough_cons {r : Reading} {c : Course} {t t' : Tracker} {instant' : Nat}
    {entry : HistoryEntry} (entered : entry = r.entry now ((s 0).uptime? now r.values.durableId))
    (first : Visit.Spares ⟨instant, .flushing (.finding now r rest report), (s 0).tracker, t⟩)
    (second : Visit.Spares ⟨instant', .flushing (.appending now entry rest report),
      (s 1).tracker, t'⟩)
    (later : GoneThrough now (s.drop 2) rest (report.count ((s 1).takes entry)) c) :
    GoneThrough now s (r :: rest) report
      (c.after [⟨instant, .flushing (.finding now r rest report), (s 0).tracker, t⟩,
        ⟨instant', .flushing (.appending now entry rest report), (s 1).tracker, t'⟩]) := by
  subst entered
  constructor
  · simp only [Course.visits_after, List.length_append, later.length, List.length_cons,
      List.length_nil]
    omega
  · rw [Course.requests_after, later.requests, entries_cons]
    rfl
  · rw [Course.progress_after, later.ended, taken_cons]
    rfl
  · intro v mem
    simp only [Course.visits_after, List.cons_append, List.nil_append, List.mem_cons] at mem
    obtain rfl | rfl | mem := mem
    · exact first
    · exact second
    · exact later.spared v mem

/-- Two steps for each reading see a flush through.  By induction on the
readings, whatever it meets. -/
theorem goneThrough (policy : RetryPolicy) (readings : List Reading) (start : Nat)
    (bears : ∀ i (h : i < readings.length),
      (s (2 * i)).Bears now readings[i].values.durableId) :
    GoneThrough now s readings report
      (Course.run policy (2 * readings.length) s start (onward now report readings)) := by
  induction readings generalizing s report start with
  | nil =>
    refine ⟨rfl, rfl, rfl, ?_⟩
    intro v mem
    cases mem
  | cons r rest ih =>
    have first : (s 0).Bears now r.values.durableId := bears 0 (Nat.succ_pos _)
    have bears' : ∀ i (h : i < rest.length),
        ((s.drop 2) (2 * i)).Bears now rest[i].values.durableId := by
      intro i less
      have next := bears (i + 1) (Nat.succ_lt_succ less)
      rw [Nat.mul_add, Nat.add_comm] at next
      exact next
    have steps : 2 * (r :: rest).length = 2 * rest.length + 1 + 1 := by
      rw [List.length_cons]
      omega
    rw [steps, onward, Course.run_succ, step_finding first, Course.run_succ]
    rw [step_appending (m := s.drop 1 0), Course.after_after, Surroundings.drop_drop]
    exact goneThrough_cons rfl (spares_finding r) (spares_appending _) (ih _ bears')

end Flushing

/-! ## 4. The account of a flush -/

/-- What a flush reads at its first step. -/
def Surroundings.readings (s : Surroundings) : List Reading :=
  (s 0).tracker.registry.snapshot.1

/-- One registry is what another becomes when its averages are emptied. -/
structure Registry.Emptied (before after : Registry) : Prop where
  tracked : ∀ f, after.get? f = (before.get? f).map Tracked.reset
  tickets : ∀ f, after.ticket? f = before.ticket? f
  issued : after.issued = before.issued

theorem Registry.emptied_snapshot (r : Registry) : r.Emptied r.snapshot.2 :=
  ⟨r.get?_snapshot, r.ticket?_snapshot, r.issued_snapshot⟩

namespace Flushing

/-- How a flush at an instant has gone, from its snapshot on. -/
structure Accounted (now : Int64) (s : Surroundings) (c : Course) : Prop where
  /-- Each tracked node has been read. -/
  once : ∀ f t, ⟨f, t⟩ ∈ s.readings ↔ (s 0).tracker.registry.get? f = some t
  ascending : s.readings.Pairwise fun a b => a.values.durableId < b.values.durableId
  /-- The order is the same in whichever one the nodes are found. -/
  sorted : ∀ found : List Reading, found.Perm s.readings → Reading.sort found = s.readings
  requests : c.requests =
    (entries now (s.drop 1) s.readings).flatMap fun e => [.find e.node, .append e]
  report : c.progress = .ended (.flushed ⟨(s 0).tracker.registry.size,
    (taken now (s.drop 1) s.readings).count true, (taken now (s.drop 1) s.readings).count false⟩)
  counted : (taken now (s.drop 1) s.readings).count true +
    (taken now (s.drop 1) s.readings).count false = (s 0).tracker.registry.size
  /-- If nothing else changes the store, the entry of a node depends on what the
  store knew of it in the beginning, and on whether its own lookup is refused. -/
  apart : c.Undisturbed (·.store) → entries now (s.drop 1) s.readings =
    s.readings.mapIdx fun i r => r.entry now
      (Meeting.uptime? { s (2 * i + 1) with tracker := (s 0).tracker } now r.values.durableId)
  /-- If nothing else changes the registry, it is left with its averages empty. -/
  emptied : c.Undisturbed (·.registry) → c.visits ≠ [] ∧
    ∀ v ∈ c.visits, (s 0).tracker.registry.Emptied v.left.registry

variable {now : Int64} {s : Surroundings}

theorem length_readings (s : Surroundings) : s.readings.length = (s 0).tracker.registry.size := by
  rw [Surroundings.readings, (s 0).tracker.registry.snapshot_perm.length_eq, List.length_map]
  rfl

/-- The first step of a flush takes its snapshot. -/
theorem run_unbegun (policy : RetryPolicy) (n start : Nat) :
    Course.run policy (n + 1) s start (.running (.flushing (.unbegun now))) =
      (Course.run policy n (s.drop 1) start
          (onward now (.begin s.readings.length) s.readings)).after
        [⟨start, .flushing (.unbegun now), (s 0).tracker,
          { (s 0).tracker with registry := (s 0).tracker.registry.snapshot.2 }⟩] := by
  rw [Course.run_succ, step_flushing, map_next rfl]
  rfl

/-- What the entries tell of a store that nothing else changes. -/
theorem entries_apart {c : Course} {v : Visit} {report : Report}
    (through : GoneThrough now (s.drop 1) s.readings report c)
    (meets : ∀ i w, c.visits[i]? = some w → w.met = (s (1 + i)).tracker)
    (begun : v.left.store = (s 0).tracker.store)
    (undisturbed : (c.after [v]).Undisturbed (·.store)) :
    entries now (s.drop 1) s.readings = s.readings.mapIdx fun i r => r.entry now
      (Meeting.uptime? { s (2 * i + 1) with tracker := (s 0).tracker } now r.values.durableId) := by
  have constant := @constant_of_chain _ (fun t => t.store.profile?) v c.visits
    (undisturbed.imp fun v w => congrArg Store.profile?)
    fun w mem => (through.spared w mem).profiles
  refine List.mapIdx_eq_mapIdx_iff.mpr fun i less => ?_
  have made : 2 * i < c.visits.length := by
    rw [through.length]
    omega
  have same := (constant _ (List.getElem_mem made)).1
  rw [meets _ _ (List.getElem?_eq_getElem made), begun, Nat.add_comm] at same
  rw [Surroundings.drop, Nat.add_comm]
  exact congrArg (Reading.entry _ now) (Meeting.uptime?_congr rfl (congrFun same _))

/-- A flush accounts for every tracked node, whatever it meets, as long as no
uptime leaves its word. -/
theorem flush_accounts (policy : RetryPolicy) (s : Surroundings) (start : Nat) (now : Int64)
    (distinct : ∀ f g t t', (s 0).tracker.registry.get? f = some t →
      (s 0).tracker.registry.get? g = some t' → t.durableId = t'.durableId → f = g)
    (bears : ∀ i (h : i < s.readings.length),
      (s (2 * i + 1)).Bears now s.readings[i].values.durableId) :
    Accounted now s (Course.run policy (2 * s.readings.length + 1) s start
      (.running (.flushing (.unbegun now)))) := by
  have bears' : ∀ i (h : i < s.readings.length),
      (s.drop 1 (2 * i)).Bears now s.readings[i].values.durableId := by
    intro i less
    rw [Surroundings.drop, Nat.add_comm]
    exact bears i less
  have through := @goneThrough now (.begin s.readings.length) (s.drop 1) policy s.readings start
    bears'
  rw [run_unbegun]
  have meets : ∀ i w, (Course.run policy (2 * s.readings.length) (s.drop 1) start
      (onward now (.begin s.readings.length) s.readings)).visits[i]? = some w →
      w.met = (s (1 + i)).tracker :=
    fun i w made => (Course.step_of_run made).1
  generalize Course.run policy _ _ _ _ = c at through meets
  constructor
  · exact fun f t => Registry.mem_snapshot_iff
  · exact Registry.ascending_snapshot distinct
  · exact fun found perm => Registry.sort_of_perm distinct perm
  · rw [Course.requests_after, through.requests]
    rfl
  · rw [Course.progress_after, through.ended, Report.foldl_count, ← length_readings]
    simp [Report.begin]
  · rw [List.count_true_add_count_false, length_taken, length_readings]
  · exact entries_apart through meets rfl
  · intro undisturbed
    have constant := constant_of_chain undisturbed fun w mem => (through.spared w mem).registry
    refine ⟨List.cons_ne_nil _ _, fun v mem => ?_⟩
    obtain rfl | mem := List.mem_cons.mp mem
    · exact Registry.emptied_snapshot _
    · rw [(constant v mem).2]
      exact Registry.emptied_snapshot _

/-- Two nodes are tracked.  The record of the first cannot be read, and the entry
of the second cannot be appended. -/
def exampleRefused : Surroundings :=
  .alone (fun i => if i = 1 ∨ i = 4 then some (.database "locked") else none)
    (History.run (.memory .empty) .default History.exampleUptimes).system.tracker
    (.running (.flushing (.unbegun 5000)))

/-- The course of that flush, beside which nothing else goes on. -/
def exampleCourse : Course :=
  Course.run .default (2 * exampleRefused.readings.length + 1) exampleRefused 0
    (.running (.flushing (.unbegun 5000)))

theorem flush_accounts_exampleRefused :
    (entries 5000 (exampleRefused.drop 1) exampleRefused.readings).map (·.uptime) =
        [none, some 3000] ∧
      taken 5000 (exampleRefused.drop 1) exampleRefused.readings = [true, false] ∧
      exampleCourse.Undisturbed (·.store) ∧ exampleCourse.Undisturbed (·.registry) ∧
      Accounted 5000 exampleRefused exampleCourse := by
  have apart : ∀ a ∈ exampleRefused.readings, ∀ b ∈ exampleRefused.readings,
      a.values.durableId = b.values.durableId → a.feedId = b.feedId := by decide
  refine ⟨rfl, rfl, Course.undisturbed_alone _ _ _ _ _ _ _,
    Course.undisturbed_alone _ _ _ _ _ _ _, flush_accounts .default exampleRefused 0 5000 ?_
      (by decide)⟩
  intro f g t t' here there
  exact apart ⟨f, t⟩ (Registry.mem_snapshot_iff.2 here) ⟨g, t'⟩ (Registry.mem_snapshot_iff.2 there)

end Flushing

end NodeWatch
