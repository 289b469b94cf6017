/-
NodeWatch.Proofs.Serialization — one flush after the other.

A scheduler counts its intervals from its start.  What it does is a row of
flushes, each begun when the one before it has reported and each uncut.  The
invariant that keeps two scheduled flushes out of one interval is about the
deadline of the ticker: it is the beginning of an interval, and all flushes so
far were begun in earlier ones (`Paced`).  A tick that comes late moves the
deadline on to the next interval after it, however many have passed
(`Paced.tick`).

Main statement: whatever happens at a station, the scheduler there makes one
flush after the other, at most one in each interval and none in the first, cuts
none short, and makes its last one, whose report it returns, after it has been
told to stop; what is averaged then has come in after the snapshot of that
flush; and it does end once it is told (`flushes_serialized`).  There is one way
to end without being told: with a flush that is lost, at a reading whose uptime
does not fit its word.  A frame of the feed brings that about (`ends_untold`).

The instants here have no end, and those of a clock have one.  Only deadlines run
ahead of the clock, and never by more than an interval (`Ticker.Near`), so a clock
that goes on for an interval after the last thing that happens loses nothing.
-/
import NodeWatch.Proofs.Station
import NodeWatch.Proofs.Uptime

namespace NodeWatch

/-! ## 1. Flushes of a scheduler -/

/-- A flush of a scheduler: what it is, when it was begun, and its log. -/
structure Flush where
  /-- Its place among the flushes of the scheduler, from 1. -/
  number : Nat
  final : Bool
  begun : Nat
  log : List Event

namespace Flush

/-- What is told of a flush. -/
def happenings (f : Flush) : List Happening :=
  .begun f.number f.final f.begun :: f.log.map .own

/-- The flush with a longer log. -/
def tell (f : Flush) (events : List Event) : Flush :=
  { f with log := f.log ++ events }

/-- The interval in which a flush was begun, from the start of its
scheduler. -/
def window (interval start : Nat) (f : Flush) : Nat :=
  (f.begun - start) / interval

/-- Whether a flush is over, with a report: it has taken its snapshot and made
an attempt for each reading. -/
def Reported (f : Flush) (report : Report) : Prop :=
  ∃ log, f.log = log ++ [.ended f.number (.flushed report)] ∧
    Flushing.LoggedEnd f.number log (.ok report)

/-- Whether a flush is over without a report, since an uptime did not fit. -/
def Lost (f : Flush) : Prop :=
  ∃ log, f.log = log ++ [.ended f.number (.lost .subtract)] ∧
    Flushing.LoggedEnd f.number log (.error .subtract)

/-- Whether a scheduler is at work on a flush. -/
def UnderWay (f : Flush) (scheduler : Progress Scheduler (Except Overflow Report)) : Prop :=
  ∃ interval stopping ticker flush, flush.Logged f.number f.log ∧
    scheduler = .running ⟨interval, stopping, .flushing ticker f.final f.begun flush⟩

theorem happenings_tell (f : Flush) (events : List Event) :
    (f.tell events).happenings = f.happenings ++ events.map .own := by
  simp [happenings, tell]

end Flush

/-! ## 2. Intervals -/

/-- The invariant of a ticker: its deadline is the beginning of an interval, and
the scheduled flushes so far were begun in earlier ones, each in its own. -/
structure Paced (interval start : Nat) (flushes : List Flush) (ticker : Ticker) : Prop where
  period : ticker.period = interval
  deadline : ∃ k, 1 ≤ k ∧ ticker.deadline = start + interval * k ∧
    ∀ f ∈ flushes, f.final = false → f.window interval start < k
  early : ∀ f ∈ flushes, f.final = false → start + interval ≤ f.begun
  apart : flushes.Pairwise fun f g =>
    f.final = false → g.final = false → f.window interval start < g.window interval start

namespace Paced

variable {interval start : Nat} {flushes : List Flush} {ticker : Ticker}

theorem started (interval start : Nat) : Paced interval start [] (.start start interval) where
  period := rfl
  deadline := ⟨1, Nat.le_refl 1, by simp [Ticker.start], by simp⟩
  early := by simp
  apart := .nil

/-- The log of a flush does not matter. -/
theorem tell {f : Flush} (paced : Paced interval start (flushes ++ [f]) ticker)
    (events : List Event) : Paced interval start (flushes ++ [f.tell events]) ticker := by
  obtain ⟨period, ⟨k, first, deadline, below⟩, early, apart⟩ := paced
  refine ⟨period, ⟨k, first, deadline, ?_⟩, ?_, ?_⟩
  · simpa [Flush.tell, Flush.window, or_imp, forall_and] using below
  · simpa [Flush.tell, or_imp, forall_and] using early
  · simpa [List.pairwise_append, Flush.tell, Flush.window] using apart

/-- The last flush is not scheduled, so it may begin at any time. -/
theorem final (paced : Paced interval start flushes ticker) {f : Flush} (last : f.final = true) :
    Paced interval start (flushes ++ [f]) ticker := by
  obtain ⟨period, ⟨k, first, deadline, below⟩, early, apart⟩ := paced
  refine ⟨period, ⟨k, first, deadline, ?_⟩, ?_, ?_⟩
  · simpa [or_imp, forall_and, last] using below
  · simpa [or_imp, forall_and, last] using early
  · simpa [List.pairwise_append, last] using apart

/-- After a tick the deadline is the beginning of the interval after that of the
tick, however late it was.  A tick that is hardly late is in the interval of its
deadline, since an interval is longer than that. -/
theorem deadline_tick (period : ticker.period = interval) (long : Ticker.grace < interval)
    {k now : Nat} (deadline : ticker.deadline = start + interval * k)
    (due : ticker.isDue now = true) :
    (now - start) / interval = k + (now - ticker.deadline) / interval ∧
      (ticker.tick .skip now).deadline = start + interval * ((now - start) / interval + 1) := by
  have positive : 0 < interval := Nat.zero_lt_of_lt long
  have reached : ticker.deadline ≤ now := of_decide_eq_true due
  obtain ⟨late, rfl⟩ := Nat.exists_eq_add_of_le reached
  have late_eq : ticker.deadline + late - ticker.deadline = late := Nat.add_sub_cancel_left _ _
  have index : (ticker.deadline + late - start) / interval = k + late / interval := by
    have away : ticker.deadline + late - start = interval * k + late := by omega
    rw [away, Nat.mul_add_div positive]
  refine ⟨by rw [index, late_eq], ?_⟩
  rw [index]
  simp only [Ticker.tick, late_eq, period]
  have split := Nat.div_add_mod late interval
  have rest := Nat.mod_lt late positive
  have sum : interval * (k + late / interval + 1) =
      interval * k + interval * (late / interval) + interval := by
    rw [Nat.mul_add, Nat.mul_add, Nat.mul_one]
  -- a tick that is hardly late keeps the grid, and is in the interval of its deadline
  split
  · next hardly =>
    have same : late / interval = 0 := Nat.div_eq_of_lt (by omega)
    rw [same] at sum ⊢
    omega
  · omega

/-- A tick begins a flush in an interval of its own. -/
theorem tick (paced : Paced interval start flushes ticker) (long : Ticker.grace < interval)
    {f : Flush} (due : ticker.isDue f.begun = true) :
    Paced interval start (flushes ++ [f]) (ticker.tick .skip f.begun) := by
  obtain ⟨period, ⟨k, first, deadline, below⟩, early, apart⟩ := paced
  obtain ⟨index, next⟩ := deadline_tick period long deadline due
  have later : ∀ g ∈ flushes, g.final = false →
      g.window interval start < f.window interval start := by
    intro g member scheduled
    have before := below g member scheduled
    rw [Flush.window, Flush.window, index]
    exact Nat.lt_add_right _ before
  have onTime : start + interval ≤ f.begun := by
    have reached : ticker.deadline ≤ f.begun := of_decide_eq_true due
    have whole : interval * 1 ≤ interval * k := Nat.mul_le_mul_left interval first
    omega
  refine ⟨period, ⟨_, Nat.le_add_left 1 _, next, ?_⟩, ?_, ?_⟩
  · intro g member scheduled
    rcases List.mem_append.1 member with old | new
    · exact Nat.lt_succ_of_lt (later g old scheduled)
    · rw [List.mem_singleton.1 new]
      exact Nat.lt_succ_self _
  · intro g member scheduled
    rcases List.mem_append.1 member with old | new
    · exact early g old scheduled
    · rw [List.mem_singleton.1 new]
      exact onTime
  · refine List.pairwise_append.2 ⟨apart, List.pairwise_singleton _ _, ?_⟩
    intro g member h new scheduled _
    rw [List.mem_singleton.1 new]
    exact later g member scheduled

end Paced

/-! ## 3. Where a scheduler stands -/

theorem Scheduler.isDue_of_branch? {s : Scheduler} {ticker : Ticker} {now : Nat}
    {preferred : Branch} (branch : s.branch? ticker now preferred = some .tick) :
    ticker.isDue now = true := by
  unfold branch? at branch
  split at branch <;> simp_all

/-- Whether flushes are scheduled and have all reported. -/
def Past (flushes : List Flush) : Prop :=
  ∀ f ∈ flushes, f.final = false ∧ ∃ report, f.Reported report

/-- What a scheduler has told, and where it stands then. -/
inductive Standing (interval : Nat) :
    List Happening → Nat → Progress Scheduler (Except Overflow Report) → Prop
  | unstarted (stopping : Bool) :
      Standing interval [] 0 (.running ⟨interval, stopping, .unstarted⟩)
  | waiting {start : Nat} {past : List Flush} {ticker : Ticker} (stopping : Bool)
      (paced : Paced interval start past ticker) (passed : Past past) :
      Standing interval (.started start :: past.flatMap Flush.happenings) past.length
        (.running ⟨interval, stopping, .waiting ticker⟩)
  | flushing {start : Nat} {past : List Flush} {f : Flush} {ticker : Ticker} {flush : Flushing}
      (stopping : Bool) (paced : Paced interval start (past ++ [f]) ticker) (passed : Past past)
      (number : f.number = past.length + 1) (logged : flush.Logged f.number f.log) :
      Standing interval (.started start :: (past ++ [f]).flatMap Flush.happenings)
        (past.length + 1) (.running ⟨interval, stopping, .flushing ticker f.final f.begun flush⟩)
  | reported {start : Nat} {past : List Flush} {f : Flush} {ticker : Ticker} {report : Report}
      (paced : Paced interval start (past ++ [f]) ticker) (passed : Past past)
      (last : f.final = true) (reported : f.Reported report) :
      Standing interval (.started start :: (past ++ [f]).flatMap Flush.happenings)
        (past.length + 1) (.ended (.ok report))
  | lost {start : Nat} {past : List Flush} {f : Flush} {ticker : Ticker}
      (paced : Paced interval start (past ++ [f]) ticker) (passed : Past past) (lost : f.Lost) :
      Standing interval (.started start :: (past ++ [f]).flatMap Flush.happenings)
        (past.length + 1) (.ended (.error .subtract))

namespace Standing

variable {interval : Nat} {told : List Happening} {n : Nat}

/-- The word to stop is heard later. -/
theorem stop {s : Scheduler} (standing : Standing interval told n (.running s)) :
    Standing interval told n (.running s.stop) := by
  cases standing with
  | unstarted stopping => exact .unstarted true
  | waiting stopping paced passed => exact .waiting true paced passed
  | flushing stopping paced passed number logged => exact .flushing true paced passed number logged

/-- A flush begins when all flushes before it are over. -/
theorem begin {start : Nat} {past : List Flush} {ticker : Ticker} {stopping : Bool}
    (passed : Past past) (final : Bool) (clock : Clock)
    (paced : Paced interval start (past ++ [⟨past.length + 1, final, clock.now, []⟩]) ticker) :
    Standing interval
      (.started start :: past.flatMap Flush.happenings ++
        [.begun (past.length + 1) final clock.now]) (past.length + 1)
      (.running ⟨interval, stopping,
        .flushing ticker final clock.now (.unbegun clock.wall)⟩) := by
  have unbegun : (Flushing.unbegun clock.wall).Logged (past.length + 1) [] := rfl
  have stands := flushing stopping paced passed rfl unbegun
  simpa [Flush.happenings] using stands

/-- A step of a flush. -/
theorem flush {start : Nat} {past : List Flush} {f : Flush} {ticker : Ticker} {flush : Flushing}
    (stopping : Bool) (paced : Paced interval start (past ++ [f]) ticker) (passed : Past past)
    (number : f.number = past.length + 1) (logged : flush.Logged f.number f.log) (now : Nat)
    (t : Tracker) (refusal : Refusal) :
    Standing interval
      (.started start :: (past ++ [f]).flatMap Flush.happenings ++
        ((Job.flushing flush).events f.number t refusal).map .own) (past.length + 1)
      (Scheduler.afterFlushing ⟨interval, stopping, .flushing ticker f.final f.begun flush⟩ now
        ticker f.final f.begun (flush.step t refusal)).progress := by
  have goesOn := logged.step t refusal
  have told : (.started start :: (past ++ [f]).flatMap Flush.happenings ++
      ((Job.flushing flush).events f.number t refusal).map .own) =
      .started start :: (past ++ [f.tell ((Job.flushing flush).events f.number t refusal)]).flatMap
        Flush.happenings := by
    simp [Flush.happenings_tell]
  have pacedOn := paced.tell ((Job.flushing flush).events f.number t refusal)
  -- only the log of the last flush has grown; where it stands depends on how it goes on
  rw [told]
  rw [events_flushing] at pacedOn ⊢
  simp only [Scheduler.afterFlushing]
  cases progress : (flush.step t refusal).progress with
  | running flush' =>
    rw [progress] at goesOn
    simp only [Step.map, progress, Job.ending, List.append_nil] at pacedOn ⊢
    exact .flushing stopping pacedOn passed number goesOn
  | ended result =>
    rw [progress] at goesOn
    simp only [Step.map, progress, Job.ending] at pacedOn ⊢
    cases result with
    | error cause =>
      obtain rfl := goesOn.1
      exact .lost pacedOn passed ⟨_, (List.append_assoc _ _ _).symm, goesOn⟩
    | ok report =>
      have reported : (f.tell (flush.events f.number t refusal ++
          [.ended f.number (.flushed report)])).Reported report :=
        ⟨_, (List.append_assoc _ _ _).symm, goesOn⟩
      cases last : f.final with
      | true => exact .reported pacedOn passed last reported
      | false =>
        have count : past.length + 1 = (past ++ [f.tell (flush.events f.number t refusal ++
            [.ended f.number (.flushed report)])]).length := by simp
        rw [count]
        refine .waiting stopping pacedOn ?_
        intro g member
        rcases List.mem_append.1 member with old | new
        · exact passed g old
        · rw [List.mem_singleton.1 new]
          exact ⟨last, report, reported⟩

/-- A step of a scheduler. -/
theorem step {s : Scheduler} (standing : Standing interval told n (.running s))
    (long : Ticker.grace < interval) (clock : Clock) (preferred : Scheduler.Branch) (t : Tracker)
    (refusal : Refusal) :
    Standing interval (told ++ s.happenings n clock preferred t refusal)
      (n + (s.happenings n clock preferred t refusal).countP Happening.isBegun)
      (s.step clock preferred t refusal).progress := by
  cases standing with
  | unstarted stopping =>
    exact .waiting stopping (.started interval clock.now) (fun _ h => nomatch h)
  | @waiting start past ticker stopping paced passed =>
    simp only [Scheduler.happenings, Scheduler.step]
    cases branch : Scheduler.branch? ⟨interval, stopping, .waiting ticker⟩ ticker clock.now
        preferred with
    | none => simpa using waiting stopping paced passed
    | some branch' =>
      cases branch' with
      | tick => exact begin passed false clock (paced.tick long (Scheduler.isDue_of_branch? branch))
      | stop => exact begin passed true clock (paced.final rfl)
  | flushing stopping paced passed number logged =>
    have none : ∀ events : List Event, (events.map Happening.own).countP Happening.isBegun = 0 := by
      intro events
      simp [List.countP_map, List.countP_eq_zero, Happening.isBegun]
    have goesOn := flush stopping paced passed number logged clock.now t refusal
    simp only [Scheduler.happenings, Scheduler.step, none, Nat.add_zero]
    rw [← number]
    rw [← number] at goesOn
    exact goesOn

end Standing

/-! ## 4. Rows of flushes -/

/-- What a scheduler has told, where it stands as it does: a row of flushes. -/
structure Row (interval : Nat) (told : List Happening)
    (scheduler : Progress Scheduler (Except Overflow Report)) (start : Nat) (flushes : List Flush) :
    Prop where
  /-- One flush comes after the other. -/
  course : told = .started start :: flushes.flatMap Flush.happenings
  /-- When a flush begins, all others were scheduled and have reported. -/
  serial : Past flushes.dropLast
  /-- No scheduled flush is begun in the first interval. -/
  early : ∀ f ∈ flushes, f.final = false → start + interval ≤ f.begun
  /-- No two scheduled flushes are begun in one interval. -/
  apart : flushes.Pairwise fun f g =>
    f.final = false → g.final = false → f.window interval start < g.window interval start
  /-- No flush is cut short: the last one has reported, or the scheduler is at
  work on it; but it may be lost to an uptime. -/
  uncut : ∀ f ∈ flushes.getLast?, (∃ report, f.Reported report) ∨
    f.UnderWay scheduler ∨
      f.Lost ∧ scheduler = .ended (.error .subtract)
  /-- A scheduler ends with its last flush and the report of it; or with one
  that is lost. -/
  ends : ∀ result, scheduler = .ended result →
    ∃ past f, flushes = past ++ [f] ∧
      ((f.final = true ∧ ∃ report, f.Reported report ∧ result = .ok report) ∨
        f.Lost ∧ result = .error .subtract)

theorem forall_mem_getLast?_concat {P : Flush → Prop} {past : List Flush} {f : Flush}
    (last : P f) : ∀ g ∈ (past ++ [f]).getLast?, P g := by
  simpa using last

/-- A scheduler has not started, or it has made a row of flushes. -/
theorem Standing.row {interval : Nat} {told : List Happening} {n : Nat}
    {scheduler : Progress Scheduler (Except Overflow Report)}
    (standing : Standing interval told n scheduler) :
    (told = [] ∧ ∃ stopping, scheduler = .running ⟨interval, stopping, .unstarted⟩) ∨
      ∃ start flushes, Row interval told scheduler start flushes := by
  cases standing with
  | unstarted stopping => exact Or.inl ⟨rfl, stopping, rfl⟩
  | @waiting start past ticker stopping paced passed =>
    refine Or.inr ⟨start, past, rfl, ?_, paced.early, paced.apart, ?_, nofun⟩
    · exact fun f member => passed f ((List.dropLast_sublist past).subset member)
    · exact fun f last => Or.inl (passed f (List.mem_of_getLast? last)).2
  | @flushing start past f ticker flush stopping paced passed number logged =>
    have underWay : f.UnderWay
        (.running ⟨interval, stopping, .flushing ticker f.final f.begun flush⟩) :=
      ⟨interval, stopping, ticker, flush, logged, rfl⟩
    exact Or.inr ⟨start, past ++ [f], rfl, by simpa using passed, paced.early, paced.apart,
      forall_mem_getLast?_concat (Or.inr (Or.inl underWay)), nofun⟩
  | @reported start past f ticker report paced passed last reported =>
    refine Or.inr ⟨start, past ++ [f], rfl, by simpa using passed, paced.early, paced.apart,
      forall_mem_getLast?_concat (Or.inl ⟨report, reported⟩), ?_⟩
    rintro result ⟨⟩
    exact ⟨past, f, rfl, Or.inl ⟨last, report, reported, rfl⟩⟩
  | @lost start past f ticker paced passed lost =>
    refine Or.inr ⟨start, past ++ [f], rfl, by simpa using passed, paced.early, paced.apart,
      forall_mem_getLast?_concat (Or.inr (Or.inr ⟨lost, rfl⟩)), ?_⟩
    rintro result ⟨⟩
    exact ⟨past, f, rfl, Or.inr ⟨lost, rfl⟩⟩

/-! ## 5. The word to stop -/

namespace Scheduler

variable {n : Nat} {clock : Clock} {preferred : Branch} {t : Tracker} {refusal : Refusal}
  {s : Scheduler}

/-- A last flush is begun only by a scheduler that has been told to stop. -/
theorem stopping_of_begun {m now : Nat}
    (begun : .begun m true now ∈ s.happenings n clock preferred t refusal) :
    s.stopping = true := by
  cases stage : s.stage with
  | unstarted => simp [happenings, stage] at begun
  | flushing ticker final begun' flush => simp [happenings, stage] at begun
  | waiting ticker =>
    simp only [happenings, stage] at begun
    split at begun
    · simp at begun
    · next branch =>
      unfold branch? at branch
      split at branch <;> simp_all
    · cases begun

/-- A step does not change what a scheduler has been told. -/
theorem stopping_step {s' : Scheduler}
    (goesOn : (s.step clock preferred t refusal).progress = .running s') :
    s'.stopping = s.stopping := by
  cases stage : s.stage with
  | unstarted =>
    simp only [step, stage, Progress.running.injEq] at goesOn
    rw [← goesOn]
  | waiting ticker =>
    simp only [step, stage, Progress.running.injEq] at goesOn
    rw [← goesOn]
    rcases s.branch? ticker clock.now preferred with _ | _ | _ <;> rfl
  | flushing ticker final begun flush =>
    simp only [step, stage, afterFlushing] at goesOn
    split at goesOn
    · rw [← Progress.running.inj goesOn]
    · cases goesOn
    · split at goesOn
      · cases goesOn
      · rw [← Progress.running.inj goesOn]

end Scheduler

namespace Diary

/-- The invariant of a station. -/
structure Kept (interval : Nat) (d : Diary) : Prop where
  standing : Standing interval (d.trace.filter Happening.ofScheduler) d.station.flushes
    d.station.scheduler
  told : ∀ s, d.station.scheduler = .running s → (s.stopping = true ↔ .told ∈ d.trace)
  final : ∀ a n now b, d.trace = a ++ .begun n true now :: b → .told ∈ a

theorem kept_start (store : Store) (policy : RetryPolicy) (interval : Nat) :
    Kept interval ⟨.start store policy interval, []⟩ where
  standing := .unstarted false
  told := by
    rintro s ⟨⟩
    exact ⟨nofun, nofun⟩
  final := by
    intro a n now b place
    simp at place

/-- What is told later changes nothing about a place, unless it is there. -/
theorem place_append {α : Type} {l more a b : List α} {x : α} (place : l ++ more = a ++ x :: b) :
    (∃ c, l = a ++ x :: c) ∨ (∃ c, a = l ++ c) ∧ x ∈ more := by
  rcases List.append_eq_append_iff.1 place with ⟨c, rfl, rfl⟩ | ⟨c, rfl, tail⟩
  · exact Or.inr ⟨⟨c, rfl⟩, by simp⟩
  · cases c with
    | nil =>
      refine Or.inr ⟨⟨[], by simp⟩, ?_⟩
      rw [List.nil_append] at tail
      rw [← tail]
      exact List.mem_cons_self
    | cons y c =>
      obtain ⟨rfl, -⟩ := List.cons.inj tail
      exact Or.inl ⟨c, rfl⟩

/-- What is aside of the scheduler leaves where it stands. -/
theorem Kept.aside {interval : Nat} {d : Diary} (kept : d.Kept interval) {more : List Happening}
    (aside : ∀ x ∈ more, ∃ e, x = .beside e) {station : Station}
    (same : station.scheduler = d.station.scheduler)
    (flushes : station.flushes = d.station.flushes) :
    Kept interval ⟨station, d.trace ++ more⟩ where
  standing := by
    have none : more.filter Happening.ofScheduler = [] := by
      refine List.filter_eq_nil_iff.2 fun x member => ?_
      obtain ⟨e, rfl⟩ := aside x member
      simp [Happening.ofScheduler]
    rw [List.filter_append, none, List.append_nil, same, flushes]
    exact kept.standing
  told := by
    intro s running
    rw [same] at running
    have untold : .told ∉ more := fun member => by
      obtain ⟨e, other⟩ := aside _ member
      cases other
    simp [kept.told s running, untold]
  final := by
    intro a n now b place
    rcases place_append place with ⟨c, old⟩ | ⟨-, new⟩
    · exact kept.final a n now c old
    · obtain ⟨e, other⟩ := aside _ new
      cases other

/-- The invariant is kept, for intervals that are longer than a tick may be
late. -/
theorem Kept.extend {interval : Nat} {d : Diary} (kept : d.Kept interval)
    (long : Ticker.grace < interval) (m : Station.Move) : (d.extend m).Kept interval := by
  unfold Diary.extend
  cases m with
  | pass delay wall => exact kept.aside (List.forall_mem_nil _) rfl rfl
  | beside m =>
    refine kept.aside ?_ rfl rfl
    intro x member
    obtain ⟨e, -, rfl⟩ := List.mem_map.1 member
    exact ⟨e, rfl⟩
  | tell =>
    simp only [Station.act]
    split
    · next s running =>
      have standing := kept.standing
      rw [running] at standing
      refine ⟨?_, ?_, ?_⟩
      · rw [List.filter_append]
        simpa [Happening.ofScheduler] using standing.stop
      · rintro s' ⟨⟩
        simp [Scheduler.stop]
      · intro a n now b place
        rcases place_append place with ⟨c, old⟩ | ⟨-, new⟩
        · exact kept.final a n now c old
        · simp at new
    · exact kept.aside (List.forall_mem_nil _) rfl rfl
  | turn preferred refusal =>
    simp only [Station.act]
    split
    · next s running =>
      have standing := kept.standing
      rw [running] at standing
      have own : (d.station.happenings preferred refusal s).filter Happening.ofScheduler =
          d.station.happenings preferred refusal s :=
        List.filter_eq_self.2 fun x member => Scheduler.ofScheduler_of_mem member
      have untold : .told ∉ d.station.happenings preferred refusal s := fun member => by
        cases Scheduler.ofScheduler_of_mem member
      refine ⟨?_, ?_, ?_⟩
      · rw [List.filter_append, own]
        exact standing.step long d.station.clock preferred d.station.system.tracker refusal
      · intro s' goesOn
        rw [Scheduler.stopping_step goesOn, kept.told s running]
        simp [untold]
      · intro a n now b place
        rcases place_append place with ⟨c, old⟩ | ⟨⟨c, rfl⟩, new⟩
        · exact kept.final a n now c old
        · -- who begins its last flush has been told before
          have heard := Scheduler.stopping_of_begun new
          exact List.mem_append_left c ((kept.told s running).1 heard)
    · exact kept.aside (List.forall_mem_nil _) rfl rfl

theorem run_kept (store : Store) (policy : RetryPolicy) {interval : Nat}
    (long : Ticker.grace < interval) (moves : List Station.Move) :
    (run store policy interval moves).Kept interval :=
  run_invariant (kept_start store policy interval) (fun _ m kept => kept.extend long m) moves

end Diary

/-! ## 6. How far ahead deadlines lie -/

/-- Whether the deadline of a ticker lies at most an interval ahead. -/
structure Ticker.Near (interval now : Nat) (ticker : Ticker) : Prop where
  period : ticker.period = interval
  ahead : ticker.deadline ≤ now + interval

namespace Ticker.Near

variable {interval now : Nat} {ticker : Ticker}

theorem started (interval now : Nat) : Near interval now (.start now interval) :=
  ⟨rfl, Nat.le_refl _⟩

theorem later (near : ticker.Near interval now) {now' : Nat} (passed : now ≤ now') :
    ticker.Near interval now' :=
  ⟨near.period, Nat.le_trans near.ahead (Nat.add_le_add_right passed interval)⟩

/-- A tick that is due leaves a deadline that is near, however late it is. -/
theorem tick (near : ticker.Near interval now) (due : ticker.isDue now = true) :
    (ticker.tick .skip now).Near interval now := by
  have reached : ticker.deadline ≤ now := of_decide_eq_true due
  refine ⟨near.period, ?_⟩
  simp only [Ticker.tick, near.period]
  split <;> omega

end Ticker.Near

namespace Scheduler

/-- The ticker of a scheduler that has been started. -/
def ticker? (s : Scheduler) : Option Ticker :=
  match s.stage with
  | .unstarted => none
  | .waiting ticker => some ticker
  | .flushing ticker _ _ _ => some ticker

/-- Whether the next deadline of a scheduler is near. -/
structure Near (interval now : Nat) (s : Scheduler) : Prop where
  same : s.interval = interval
  ticker : ∀ ticker ∈ s.ticker?, ticker.Near interval now

theorem Near.step {interval : Nat} {s s' : Scheduler} {clock : Clock}
    (near : s.Near interval clock.now) {preferred : Branch} {t : Tracker} {refusal : Refusal}
    (goesOn : (s.step clock preferred t refusal).progress = .running s') :
    s'.Near interval clock.now := by
  obtain ⟨same, tickers⟩ := near
  obtain ⟨interval', stopping, stage⟩ := s
  obtain rfl : interval' = interval := same
  cases stage with
  | unstarted =>
    cases goesOn
    exact ⟨rfl, by simpa [ticker?] using .started interval' clock.now⟩
  | waiting ticker =>
    have here : ticker.Near interval' clock.now := tickers ticker rfl
    simp only [Scheduler.step, Progress.running.injEq] at goesOn
    rw [← goesOn]
    split
    · next branch =>
      exact ⟨rfl, by simpa [ticker?] using here.tick (isDue_of_branch? branch)⟩
    · exact ⟨rfl, tickers⟩
    · exact ⟨rfl, tickers⟩
  | flushing ticker final begun flush =>
    simp only [Scheduler.step, afterFlushing] at goesOn
    split at goesOn
    · rw [← Progress.running.inj goesOn]
      exact ⟨rfl, tickers⟩
    · cases goesOn
    · split at goesOn
      · cases goesOn
      · rw [← Progress.running.inj goesOn]
        exact ⟨rfl, tickers⟩

end Scheduler

/-- At no time does a deadline lie more than an interval ahead. -/
theorem Diary.run_near (store : Store) (policy : RetryPolicy) (interval : Nat)
    (moves : List Station.Move) :
    ∀ s, (run store policy interval moves).station.scheduler = .running s →
      s.Near interval (run store policy interval moves).station.clock.now := by
  refine run_invariant (P := fun d => ∀ s, d.station.scheduler = .running s →
    s.Near interval d.station.clock.now) ?_ ?_ moves
  · rintro s ⟨⟩
    exact ⟨rfl, nofun⟩
  · intro d m kept s running
    unfold extend at running ⊢
    cases m with
    | pass delay wall =>
      have near := kept s running
      exact ⟨near.same, fun ticker has =>
        (near.ticker ticker has).later (Nat.le_add_right _ delay)⟩
    | beside m => exact kept s running
    | tell =>
      simp only [Station.act] at running ⊢
      split at running
      · next s' running' =>
        cases running
        have near := kept s' running'
        exact ⟨near.same, near.ticker⟩
      · exact kept s running
    | turn preferred refusal =>
      simp only [Station.act] at running ⊢
      split at running
      · next s' running' => exact (kept s' running').step running
      · exact kept s running

/-! ## 7. The end -/

/-- How many steps a flush makes at most. -/
def Flushing.remaining (t : Tracker) : Flushing → Nat
  | .unbegun _ => 2 * t.registry.snapshot.1.length + 1
  | .finding _ _ rest _ => 2 * rest.length + 2
  | .appending _ _ rest _ => 2 * rest.length + 1

/-- Every step of a flush is one less to make. -/
theorem Flushing.remaining_step {t t' : Tracker} {refusal : Refusal} {flush flush' : Flushing}
    (goesOn : (flush.step t refusal).progress = .running flush') :
    flush'.remaining t' < flush.remaining t := by
  have next_lt {wall : Int64} {report : Report} {readings : List Reading}
      (h : next wall report readings = .running flush') :
      flush'.remaining t' < 2 * readings.length + 1 := by
    cases readings with
    | nil => cases h
    | cons reading rest =>
      cases h
      simp only [remaining, List.length_cons]
      omega
  cases flush with
  | unbegun wall => exact next_lt goesOn
  | finding wall reading rest report =>
    simp only [step] at goesOn
    split at goesOn
    · cases goesOn
    · cases goesOn
      exact Nat.lt_succ_self _
  | appending wall entry rest report =>
    obtain ⟨report', next', -⟩ := appending_progress t refusal wall entry rest report
    exact next_lt (next'.symm.trans goesOn)

namespace Diary

/-- The diary after a number of turns of the scheduler, in which no call is
refused and the word to stop goes first. -/
def turns (d : Diary) (k : Nat) : Diary :=
  d.goOn (List.replicate k (.turn .stop none))

theorem turns_add (d : Diary) (a b : Nat) : d.turns (a + b) = (d.turns a).turns b := by
  rw [turns, List.replicate_add, goOn_append]
  rfl

theorem scheduler_turn {d : Diary} {s : Scheduler} (running : d.station.scheduler = .running s) :
    (d.extend (.turn .stop none)).station.scheduler = (d.station.step .stop none s).progress := by
  simp [extend, Station.act, running]

/-- A flush comes to an end: with it the scheduler ends, or waits again.  By
induction on the steps that it has left. -/
theorem flush_ends {interval begun : Nat} {stopping final : Bool} {ticker : Ticker} (m : Nat)
    {d : Diary} {flush : Flushing} (few : flush.remaining d.station.system.tracker ≤ m)
    (running : d.station.scheduler =
      .running ⟨interval, stopping, .flushing ticker final begun flush⟩) :
    ∃ k, (∃ result, (d.turns k).station.scheduler = .ended result) ∨
      final = false ∧
        (d.turns k).station.scheduler = .running ⟨interval, stopping, .waiting ticker⟩ := by
  induction m generalizing d flush with
  | zero => cases flush <;> simp [Flushing.remaining] at few
  | succ m ih =>
    have goesOn := scheduler_turn running
    simp only [Station.step, Scheduler.step, Scheduler.afterFlushing] at goesOn
    split at goesOn
    · next flush' progress =>
      have less : flush'.remaining (d.extend (.turn .stop none)).station.system.tracker <
          flush.remaining d.station.system.tracker := Flushing.remaining_step progress
      obtain ⟨k, ends⟩ := ih (by omega) goesOn
      exact ⟨k + 1, ends⟩
    · exact ⟨1, Or.inl ⟨_, goesOn⟩⟩
    · cases final with
      | true => exact ⟨1, Or.inl ⟨_, goesOn⟩⟩
      | false => exact ⟨1, Or.inr ⟨rfl, goesOn⟩⟩

/-- A scheduler that waits, and has been told to stop, comes to its end. -/
theorem ends_of_waiting {interval : Nat} {ticker : Ticker} {d : Diary}
    (running : d.station.scheduler = .running ⟨interval, true, .waiting ticker⟩) :
    ∃ k result, (d.turns k).station.scheduler = .ended result := by
  have goesOn := scheduler_turn running
  have stops : Scheduler.branch? ⟨interval, true, .waiting ticker⟩ ticker d.station.clock.now
      .stop = some .stop := by
    unfold Scheduler.branch?
    cases ticker.isDue d.station.clock.now <;> rfl
  simp only [Station.step, Scheduler.step, stops] at goesOn
  obtain ⟨k, ⟨result, ends⟩ | ⟨unfinal, -⟩⟩ := flush_ends _ (Nat.le_refl _) goesOn
  · exact ⟨k + 1, result, ends⟩
  · cases unfinal

/-- A scheduler that has been told to stop comes to its end. -/
theorem ends_of_stopping {s : Scheduler} {d : Diary} (running : d.station.scheduler = .running s)
    (stopping : s.stopping = true) :
    ∃ k result, (d.turns k).station.scheduler = .ended result := by
  obtain ⟨interval, _, stage⟩ := s
  obtain rfl := stopping
  cases stage with
  | unstarted =>
    obtain ⟨k, ends⟩ := ends_of_waiting (scheduler_turn running)
    exact ⟨k + 1, ends⟩
  | waiting ticker => exact ends_of_waiting running
  | flushing ticker final begun flush =>
    obtain ⟨k, ends | ⟨-, waits⟩⟩ := flush_ends _ (Nat.le_refl _) running
    · exact ⟨k, ends⟩
    · obtain ⟨l, ends⟩ := ends_of_waiting waits
      exact ⟨k + l, by rwa [turns_add]⟩

/-! ## 8. Serialization -/

/-- What holds of a station, whatever has happened there. -/
structure Serialized (interval : Nat) (d : Diary) : Prop where
  /-- The scheduler has not started, or it has made a row of flushes. -/
  row : (d.trace.filter Happening.ofScheduler = [] ∧
      ∃ stopping, d.station.scheduler = .running ⟨interval, stopping, .unstarted⟩) ∨
    ∃ start flushes,
      Row interval (d.trace.filter Happening.ofScheduler) d.station.scheduler start flushes
  /-- A last flush is begun only after the word to stop. -/
  final : ∀ a n now b, d.trace = a ++ .begun n true now :: b → .told ∈ a
  /-- After a snapshot of a flush, the last one or another, averages hold only
  what has come in since. -/
  averaged : ∀ a n wall readings b, d.trace = a ++ .own (.snapped n wall readings) :: b →
    ∀ f s, d.station.system.tracker.registry.get? f = some s → s.Samples (fresh f (eventsOf b))
  /-- No deadline lies more than an interval ahead, so instants that hold an
  interval beside what the clock shows hold all deadlines. -/
  ahead : ∀ s, d.station.scheduler = .running s → ∀ ticker ∈ s.ticker?,
    ticker.deadline ≤ d.station.clock.now + interval
  /-- Once it is told to stop, the scheduler comes to its end. -/
  stops : .told ∈ d.trace → ∃ k result, (d.turns k).station.scheduler = .ended result

/-- At every station the flushes of a scheduler are serialized. -/
theorem flushes_serialized (store : Store) (policy : RetryPolicy) {interval : Nat}
    (long : Ticker.grace < interval) (moves : List Station.Move) :
    Serialized interval (run store policy interval moves) := by
  have kept := run_kept store policy long moves
  have explained := run_explains store policy interval moves
  have near := run_near store policy interval moves
  generalize run store policy interval moves = d at kept explained near
  refine ⟨kept.standing.row, kept.final, ?_,
    fun s running ticker has => ((near s running).ticker ticker has).ahead, ?_⟩
  · intro a n wall readings b place f s found
    have events : eventsOf d.trace = eventsOf a ++ .snapped n wall readings :: eventsOf b := by
      rw [place, eventsOf_append]
      rfl
    obtain ⟨tells, after⟩ := explained
    rw [events] at tells after
    rw [after, Tracker.after_append] at found
    exact samples_after_snapshot (tells_append.1 tells).2 found
  · -- the end is not a matter of time: it needs no more than turns
    intro told
    cases stands : d.station.scheduler with
    | running s => exact ends_of_stopping stands ((kept.told s stands).2 told)
    | ended result => exact ⟨0, result, stands⟩

open History (exampleAnnounced exampleFrame ofFrame_exampleFrame)

/-- A node that is tracked, a scheduled flush, the word to stop in the middle of
it, and the last flush. -/
def exampleStop : List Station.Move :=
  [.beside (.message 0 (.addedNode (exampleAnnounced 8 "b" 1000))), .beside (.step 0 none),
    .turn .tick none, .pass 60000 65000, .turn .tick none, .turn .tick none, .turn .tick none,
    .tell, .pass 90000 155000, .turn .tick none, .turn .stop none, .turn .tick none,
    .turn .tick none, .turn .tick none]

theorem flushes_serialized_exampleStop :
    Ticker.grace < 60000 ∧
      (run (.memory .empty) .default 60000 exampleStop).station.scheduler =
        .ended (.ok ⟨1, 1, 0⟩) ∧
      Serialized 60000 (run (.memory .empty) .default 60000 exampleStop) :=
  ⟨by decide, rfl, flushes_serialized (.memory .empty) .default (by decide) exampleStop⟩

/-- The nodes of a frame, the first of them started at the beginning of all time,
and the steps of the scheduler up to its first flush. -/
def exampleUntold : List Station.Move :=
  [.beside (.message 0 (.addedNode (exampleAnnounced 7 "a" (-9223372036854775808)))),
    .beside (.message 0 (.addedNode (exampleAnnounced 8 "b" 1000))), .beside (.step 0 none),
    .beside (.step 1 none), .turn .tick none, .pass 60000 65000, .turn .tick none,
    .turn .tick none, .turn .tick none]

/-- A scheduler that nobody has told to stop ends with its first flush. -/
theorem ends_untold :
    Message.ofFrame exampleFrame =
        .ok [.ok (.addedNode (exampleAnnounced 7 "a" (-9223372036854775808))),
          .ok (.addedNode (exampleAnnounced 8 "b" 1000))] ∧
      .tell ∉ exampleUntold ∧
      .told ∉ (run (.memory .empty) .default 60000 exampleUntold).trace ∧
      (run (.memory .empty) .default 60000 exampleUntold).station.scheduler =
        .ended (.error .subtract) := by
  have trace : (run (.memory .empty) .default 60000 exampleUntold).trace.all
      (fun x => match x with | .told => false | _ => true) = true := rfl
  refine ⟨ofFrame_exampleFrame, by simp [exampleUntold], fun told => ?_, rfl⟩
  cases List.all_eq_true.1 trace .told told

end Diary

end NodeWatch
