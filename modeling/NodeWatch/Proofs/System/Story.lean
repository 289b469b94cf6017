/-
NodeWatch.Proofs.System.Story — the whole story of a job.

The log of a job has few shapes.  An announcement takes its ticket, gets one
answer from the store and, with a record and a location to set, sets it
once.  A location is looked up until it is found or given up, and is set
once if it is found.  A flush tells of nothing but its snapshot and its
attempts.  `Story` lists the shapes, each with what is left of the job
then, and every step leads from one shape to another.

This is said of runs in which nobody takes tickets by hand, so that every
ticket is that of an announcement.
-/
import NodeWatch.Proofs.System.Log
import NodeWatch.Proofs.System.Origin

namespace NodeWatch

/-! ## 1. Answers and results -/

/-- Whether a move leaves tickets to the announcements that they are for. -/
def Move.OfFeed : Move → Prop
  | .call (.issue _) => False
  | .call (.complete _ _) => False
  | _ => True

namespace Event

/-- Whether an event tells of the record that was created for an
announcement. -/
def Creates (j : JobId) (ticket : Ticket) (node : Announcement) (d : DurableId) : Event → Prop
  | installed k t n id _ => k = j ∧ t = ticket ∧ n = node ∧ id = d
  | superseded k t n id => k = j ∧ t = ticket ∧ n = node ∧ id = d
  | _ => False

/-- Whether an event tells what became of the record of an announcement. -/
def Answers (j : JobId) (ticket : Ticket) (node : Announcement) (e : Event) : Prop :=
  (∃ d, e.Creates j ticket node d) ∨ ∃ cause, e = .uncreated j ticket cause

/-- The ticket whose announcement an event answers. -/
def answered? : Event → Option Ticket
  | installed _ ticket _ _ _ => some ticket
  | superseded _ ticket _ _ => some ticket
  | uncreated _ ticket _ => some ticket
  | _ => none

/-- A record that has been created is told with its ticket, current or not. -/
theorem exists_creates (j : JobId) (t : Tracker) (ticket : Ticket) (node : Announcement)
    (d : DurableId) :
    ∃ e, (if t.registry.isCurrent ticket = true then
        [Event.installed j ticket node d (t.registry.get? ticket.feedId)]
      else [.superseded j ticket node d]) = [e] ∧ e.Creates j ticket node d := by
  cases t.registry.isCurrent ticket with
  | true => exact ⟨_, rfl, rfl, rfl, rfl, rfl⟩
  | false => exact ⟨_, rfl, rfl, rfl, rfl, rfl⟩

theorem Creates.answered? {j : JobId} {ticket : Ticket} {node : Announcement} {d : DurableId}
    {e : Event} (h : e.Creates j ticket node d) : e.answered? = some ticket := by
  cases e with
  | installed k t n id previous => exact congrArg some h.2.1
  | superseded k t n id => exact congrArg some h.2.1
  | _ => cases h

theorem Creates.created? {j : JobId} {ticket : Ticket} {node : Announcement} {d : DurableId}
    {e : Event} (h : e.Creates j ticket node d) : e.created? = some d := by
  cases e with
  | installed k t n id previous => exact congrArg some h.2.2.2
  | superseded k t n id => exact congrArg some h.2.2.2
  | _ => cases h

theorem Creates.job? {j : JobId} {ticket : Ticket} {node : Announcement} {d : DurableId}
    {e : Event} (h : e.Creates j ticket node d) : e.job? = some j := by
  cases e with
  | installed k t n id previous => exact congrArg some h.1
  | superseded k t n id => exact congrArg some h.1
  | _ => cases h

theorem Creates.work {j : JobId} {ticket : Ticket} {node : Announcement} {d : DurableId}
    {e : Event} (h : e.Creates j ticket node d) : e.work = .announcing := by
  cases e with
  | installed k t n id previous => rfl
  | superseded k t n id => rfl
  | _ => cases h

theorem Answers.answered? {j : JobId} {ticket : Ticket} {node : Announcement} {e : Event}
    (h : e.Answers j ticket node) : e.answered? = some ticket := by
  rcases h with ⟨d, created⟩ | ⟨cause, rfl⟩
  · exact created.answered?
  · rfl

theorem work_of_answered? {e : Event} {ticket : Ticket} (h : e.answered? = some ticket) :
    e.work = .announcing := by
  cases e with
  | installed j t n id previous => rfl
  | superseded j t n id => rfl
  | uncreated j t cause => rfl
  | _ => cases h

theorem not_answers {e : Event} (h : e.answered? = none) (j : JobId) (ticket : Ticket)
    (node : Announcement) : ¬ e.Answers j ticket node := by
  intro answer
  rw [answer.answered?] at h
  cases h

end Event

/-- The work on a location, if a job is one. -/
def Job.locating? : Job → Option Locating
  | .attempting l => some l
  | .locating l => some l
  | _ => none

/-- Whether the result of a job is that a location has been set in the
record with an id. -/
def Job.Result.Applied (d : DurableId) : Job.Result → Prop
  | .attempted (.ok (.applied id)) => id = d
  | .located (.applied id _) => id = d
  | _ => False

/-! ## 2. The shapes of logs -/

/-- The log of a job, with what is left of the job. -/
inductive Story (j : JobId) : List Event → Option Job → Prop
  /-- A flush, or no job at all. -/
  | aside {log : List Event} {left : Option Job}
      (aside : ∀ e ∈ log, e.work = .flushing ∨ e.work = .ending)
      (flush : ∀ job, left = some job → job.work = .flushing) : Story j log left
  | unbegun (told : Bool) (node : Announcement) :
      Story j [] (some (.announcing told (.unbegun node)))
  | creating (told : Bool) (ticket : Ticket) (node : Announcement) :
      Story j [.announced j ticket node] (some (.announcing told (.creating ticket node)))
  | uncreated (ticket : Ticket) (node : Announcement) (cause : Option StoreError)
      (result : Job.Result) :
      Story j [.announced j ticket node, .uncreated j ticket cause, .ended j result] none
  /-- The record has been created, and there is no location to set. -/
  | created {ticket : Ticket} {node : Announcement} {e : Event} {d : DurableId}
      {result : Job.Result} (created : e.Creates j ticket node d)
      (carried : node.location = none) :
      Story j [.announced j ticket node, e, .ended j result] none
  /-- The announced location is being set. -/
  | homing (told : Bool) {ticket : Ticket} {node : Announcement} {e : Event} {d : DurableId}
      {location : Location} (created : e.Creates j ticket node d)
      (carried : node.location = some location) :
      Story j [.announced j ticket node, e] (some (.announcing told (.placing node d location)))
  /-- The announced location has been set. -/
  | homed {ticket : Ticket} {node : Announcement} {e : Event} {d : DurableId}
      {location : Location} {done : Bool} {result : Job.Result}
      (created : e.Creates j ticket node d) (carried : node.location = some location) :
      Story j [.announced j ticket node, e, .placed j d location done, .ended j result] none
  /-- The node of a location is to be looked up. -/
  | looking {job : Job} {task : Postponed} {tries : List Event}
      (stands : job.locating? = some (.looking task))
      (tried : ∀ e ∈ tries, e = .looked j task.feedId none) :
      Story j (.located j task.feedId task.location :: tries) (some job)
  | unknown {f : FeedId} {location : Location} {tries : List Event} {result : Job.Result}
      (tried : ∀ e ∈ tries, e = .looked j f none) (lost : ∀ d, ¬ result.Applied d) :
      Story j (.located j f location :: (tries ++ [.ended j result])) none
  /-- The node is known, and the location is being set. -/
  | setting {job : Job} {task : Postponed} {tries : List Event} {d : DurableId}
      (stands : job.locating? = some (.placing task d))
      (tried : ∀ e ∈ tries, e = .looked j task.feedId none) :
      Story j (.located j task.feedId task.location ::
        (tries ++ [.looked j task.feedId (some d)])) (some job)
  | set {f : FeedId} {location : Location} {tries : List Event} {d : DurableId} {done : Bool}
      {result : Job.Result} (tried : ∀ e ∈ tries, e = .looked j f none)
      (applied : ∀ id, result.Applied id ↔ done = true ∧ id = d) :
      Story j (.located j f location :: (tries ++
        [.looked j f (some d), .placed j d location done, .ended j result])) none

/-! ## 3. Steps -/

namespace Story

variable {j : JobId} {t : Tracker} {refusal : Refusal}

theorem step_creating (told : Bool) (ticket : Ticket) (node : Announcement) :
    Story j (.announced j ticket node ::
        (Job.announcing told (.creating ticket node)).events j t refusal)
      (Job.rest ((Job.announcing told (.creating ticket node)).step t refusal).progress) := by
  simp only [Job.events, Job.story, Job.step, Announcing.events, Announcing.step]
  cases t.create refusal node.profile with
  | error cause => exact .uncreated ticket node none _
  | ok result =>
    cases result with
    | error cause => exact .uncreated ticket node (some cause) _
    | ok made =>
      obtain ⟨d, t'⟩ := made
      obtain ⟨e, events, created⟩ := Event.exists_creates j t ticket node d
      simp only [events, Step.map]
      cases carried : node.location with
      | none => exact .created created carried
      | some location => exact .homing told created carried

theorem step_homing (told : Bool) {ticket : Ticket} {node : Announcement} {e : Event}
    {d : DurableId} {location : Location} (created : e.Creates j ticket node d)
    (carried : node.location = some location) :
    Story j ([.announced j ticket node, e] ++
        (Job.announcing told (.placing node d location)).events j t refusal)
      (Job.rest ((Job.announcing told (.placing node d location)).step t refusal).progress) := by
  simp only [Job.events, Job.story, Job.step, Announcing.events, Announcing.step]
  cases t.setLocation refusal d location with
  | error cause => exact .homed created carried
  | ok t' => exact .homed created carried

theorem step_setting {job : Job} {task : Postponed} {tries : List Event} {d : DurableId}
    (stands : job.locating? = some (.placing task d))
    (tried : ∀ e ∈ tries, e = .looked j task.feedId none) :
    Story j (.located j task.feedId task.location ::
        (tries ++ [.looked j task.feedId (some d)]) ++ job.events j t refusal)
      (Job.rest (job.step t refusal).progress) := by
  rw [List.cons_append, List.append_assoc]
  cases job with
  | attempting l =>
    obtain rfl : l = .placing task d := Option.some.inj stands
    simp only [Job.events, Job.story, Job.step, Locating.events, Locating.attempt]
    cases t.setLocation refusal d task.location with
    | error cause => exact .set tried (fun id => ⟨False.elim, fun h => by cases h.1⟩)
    | ok t' => exact .set tried (fun id => ⟨fun h => ⟨rfl, h.symm⟩, fun h => h.2.symm⟩)
  | locating l =>
    obtain rfl : l = .placing task d := Option.some.inj stands
    simp only [Job.events, Job.story, Job.step, Locating.events, Locating.step, Locating.attempt]
    cases t.setLocation refusal d task.location with
    | error cause => exact .set tried (fun id => ⟨False.elim, fun h => by cases h.1⟩)
    | ok t' => exact .set tried (fun id => ⟨fun h => ⟨rfl, h.symm⟩, fun h => h.2.symm⟩)
  | _ => cases stands

theorem tried_concat {f : FeedId} {tries : List Event}
    (tried : ∀ e ∈ tries, e = .looked j f none) :
    ∀ e ∈ tries ++ [.looked j f none], e = .looked j f none := by
  intro e he
  rcases List.mem_append.1 he with old | new
  · exact tried e old
  · exact List.mem_singleton.1 new

theorem step_looking {job : Job} {task : Postponed} {tries : List Event}
    (stands : job.locating? = some (.looking task))
    (tried : ∀ e ∈ tries, e = .looked j task.feedId none) :
    Story j (.located j task.feedId task.location :: tries ++ job.events j t refusal)
      (Job.rest (job.step t refusal).progress) := by
  have more := tried_concat tried
  rw [List.cons_append]
  cases job with
  | attempting l =>
    obtain rfl : l = .looking task := Option.some.inj stands
    simp only [Job.events, Job.story, Job.step, Locating.events, Locating.attempt]
    cases t.registry.durableId? task.feedId with
    | some d => exact .setting rfl tried
    | none =>
      have shape : Story j (.located j task.feedId task.location ::
          (tries ++ [.looked j task.feedId none] ++ [.ended j (.attempted (.ok .nodeUnknown))]))
          none := .unknown more (fun d => False.elim)
      rw [List.append_assoc] at shape
      exact shape
  | locating l =>
    obtain rfl : l = .looking task := Option.some.inj stands
    simp only [Job.events, Job.story, Job.step, Locating.events, Locating.step, Locating.attempt]
    cases t.registry.durableId? task.feedId with
    | some d => exact .setting rfl tried
    | none =>
      simp only [Locating.postpone, Locating.task]
      cases again : task.postpone with
      | none =>
        have shape : Story j (.located j task.feedId task.location ::
            (tries ++ [.looked j task.feedId none] ++
              [.ended j (.located (.abandoned task.postponed))])) none :=
          .unknown more (fun d => False.elim)
        rw [List.append_assoc] at shape
        exact shape
      | some next =>
        obtain ⟨feedId, location⟩ : next.feedId = task.feedId ∧ next.location = task.location := by
          unfold Postponed.postpone at again
          split at again <;> cases again
          exact ⟨rfl, rfl⟩
        rw [← feedId, ← location]
        rw [← feedId] at more
        exact .looking rfl more
  | _ => cases stands

theorem step_aside {log : List Event} {job : Job}
    (aside : ∀ e ∈ log, e.work = .flushing ∨ e.work = .ending) (flush : job.work = .flushing) :
    Story j (log ++ job.events j t refusal) (Job.rest (job.step t refusal).progress) := by
  refine .aside ?_ ?_
  · intro e he
    rcases List.mem_append.1 he with old | new
    · exact aside e old
    · rcases (Job.of_mem_events new).2 with work | ⟨-, other⟩ | work
      · exact Or.inl (work.trans flush)
      · exact absurd flush other
      · exact Or.inr work
  · intro left goesOn
    exact (Job.work_rest goesOn).trans flush

theorem step {log : List Event} {job : Job} (h : Story j log (some job)) :
    Story j (log ++ job.events j t refusal) (Job.rest (job.step t refusal).progress) := by
  cases h with
  | aside aside flush => exact step_aside aside (flush job rfl)
  | unbegun told node => exact .creating told _ node
  | creating told ticket node => exact step_creating told ticket node
  | homing told created carried => exact step_homing told created carried
  | looking stands tried => exact step_looking stands tried
  | setting stands tried => exact step_setting stands tried

end Story

theorem logs_story : History.Logs Move.OfFeed Story := by
  constructor
  · exact fun j => .aside (List.forall_mem_nil _) (fun job h => by cases h)
  · intro j t m job ok begins
    have looks : ∀ (f : FeedId) (location : Location) (job : Job),
        job.locating? = some (.looking (.new f location t.policy)) →
          Story j [.located j f location] (some job) :=
      fun f location job stands => .looking stands (List.forall_mem_nil _)
    cases m with
    | message now m =>
      cases m with
      | addedNode node => cases begins; exact .creating true _ node
      | locatedNode f location => cases begins; exact looks f location _ rfl
      | _ => cases begins
    | call c =>
      cases c with
      | announce node => cases begins; exact .unbegun false node
      | attempt f location => cases begins; exact looks f location _ rfl
      | locate f location => cases begins; exact looks f location _ rfl
      | flush now =>
        cases begins
        refine .aside (List.forall_mem_nil _) ?_
        rintro job ⟨⟩
        rfl
      | issue f => cases ok
      | complete ticket node => cases ok
      | _ => cases begins
    | step k refusal => cases begins
  · exact fun j t refusal job log h => h.step

/-! ## 4. Announcements and their answers -/

namespace Story

variable {j : JobId} {log : List Event} {left : Option Job}

/-- The log of a location tells of looking for its node, and then of what
comes after. -/
theorem work_ne_of_tried {f : FeedId} {location : Location} {tries tail : List Event}
    {work : Event.Work} (tried : ∀ e ∈ tries, e = .looked j f none) (other : work ≠ .locating)
    (rest : ∀ e ∈ tail, e.work ≠ work) :
    ∀ e ∈ .located j f location :: (tries ++ tail), e.work ≠ work := by
  intro e he
  rcases List.mem_cons.1 he with rfl | he
  · exact other.symm
  · rcases List.mem_append.1 he with look | he
    · rw [tried e look]
      exact other.symm
    · exact rest e he

theorem work_ne_of_tries {f : FeedId} {location : Location} {tries : List Event}
    {work : Event.Work} (tried : ∀ e ∈ tries, e = .looked j f none) (other : work ≠ .locating) :
    ∀ e ∈ .located j f location :: tries, e.work ≠ work := by
  have h : ∀ e ∈ .located j f location :: (tries ++ []), e.work ≠ work :=
    work_ne_of_tried tried other (List.forall_mem_nil _)
  rw [List.append_nil] at h
  exact h

/-- What a log says of an announcement: nothing, or that it waits for its
answer, or its answer and nothing more. -/
theorem announcement (h : Story j log left) :
    (∀ e ∈ log, e.work ≠ .announcing) ∨
    (∃ told ticket node, log = [.announced j ticket node] ∧
      left = some (.announcing told (.creating ticket node))) ∨
    ∃ ticket node e tail, log = .announced j ticket node :: e :: tail ∧
      e.Answers j ticket node ∧ ∀ e' ∈ tail, e'.work ≠ .announcing := by
  cases h with
  | aside aside flush =>
    refine Or.inl fun e he => ?_
    rcases aside e he with work | work <;> rw [work] <;> decide
  | unbegun told node => exact Or.inl (List.forall_mem_nil _)
  | creating told ticket node => exact Or.inr (Or.inl ⟨told, ticket, node, rfl, rfl⟩)
  | uncreated ticket node cause result =>
    exact Or.inr (Or.inr ⟨ticket, node, _, _, rfl, Or.inr ⟨cause, rfl⟩, by simp [Event.work]⟩)
  | @created ticket node e d result created carried =>
    exact Or.inr (Or.inr ⟨ticket, node, e, _, rfl, Or.inl ⟨d, created⟩, by simp [Event.work]⟩)
  | @homing told ticket node e d location created carried =>
    exact Or.inr (Or.inr ⟨ticket, node, e, [], rfl, Or.inl ⟨d, created⟩, List.forall_mem_nil _⟩)
  | @homed ticket node e d location done result created carried =>
    exact Or.inr (Or.inr ⟨ticket, node, e, _, rfl, Or.inl ⟨d, created⟩, by simp [Event.work]⟩)
  | looking stands tried => exact Or.inl (work_ne_of_tries tried (by decide))
  | unknown tried lost =>
    exact Or.inl (work_ne_of_tried tried (by decide) (by simp [Event.work]))
  | setting stands tried =>
    exact Or.inl (work_ne_of_tried tried (by decide) (by simp [Event.work]))
  | set tried applied =>
    exact Or.inl (work_ne_of_tried tried (by decide) (by simp [Event.work]))

/-- The log that has an answer begins with the announcement. -/
theorem announced_of_answered (h : Story j log left) {e : Event} (told : e ∈ log)
    {ticket : Ticket} (answer : e.answered? = some ticket) :
    ∃ node tail, log = .announced j ticket node :: tail ∧ e.Answers j ticket node := by
  have announcing := Event.work_of_answered? answer
  rcases h.announcement with quiet | ⟨flag, t, node, rfl, -⟩ |
    ⟨t, node, e', tail, rfl, answers, quiet⟩
  · exact absurd announcing (quiet e told)
  · rw [List.mem_singleton.1 told] at answer
    cases answer
  · rcases List.mem_cons.1 told with rfl | told
    · cases answer
    · rcases List.mem_cons.1 told with rfl | late
      · obtain rfl : t = ticket := Option.some.inj (answers.answered?.symm.trans answer)
        exact ⟨node, _, rfl, answers⟩
      · exact absurd announcing (quiet e late)

/-- A log has one answer at most. -/
theorem answer_unique (h : Story j log left) {e e' : Event} (told : e ∈ log) (told' : e' ∈ log)
    {ticket ticket' : Ticket} (answer : e.answered? = some ticket)
    (answer' : e'.answered? = some ticket') : e' = e := by
  rcases h.announcement with quiet | ⟨flag, t, node, rfl, -⟩ |
    ⟨t, node, only, tail, rfl, -, quiet⟩
  · exact absurd (Event.work_of_answered? answer) (quiet e told)
  · rw [List.mem_singleton.1 told] at answer
    cases answer
  · have isOnly : ∀ x ∈ Event.announced j t node :: only :: tail, ∀ {ticket},
        x.answered? = some ticket → x = only := by
      intro x hx ticket answer
      rcases List.mem_cons.1 hx with rfl | hx
      · cases answer
      · rcases List.mem_cons.1 hx with same | late
        · exact same
        · exact absurd (Event.work_of_answered? answer) (quiet x late)
    exact (isOnly e' told' answer').trans (isOnly e told answer).symm

end Story

namespace History

variable {store : Store} {policy : RetryPolicy} {moves : List Move}

theorem run_story (store : Store) (policy : RetryPolicy) (feed : ∀ m ∈ moves, m.OfFeed)
    (j : JobId) :
    Story j (logOf j (run store policy moves).trace) ((run store policy moves).job? j) :=
  run_log logs_story store policy feed j

/-- In a run of the feed every ticket is that of an announcement. -/
theorem issued_notMem (feed : ∀ m ∈ moves, m.OfFeed) (ticket : Ticket) :
    .issued ticket ∉ (run store policy moves).trace := by
  refine run_induction (P := fun h => .issued ticket ∉ h.trace) List.not_mem_nil ?_ feed
  intro h m ok none told
  rcases List.mem_append.1 told with old | new
  · exact none old
  · cases m with
    | message now m =>
      cases m with
      | addedNode node => cases List.mem_singleton.1 new
      | removedNode f => cases List.mem_singleton.1 new
      | locatedNode f location => cases List.mem_singleton.1 new
      | importedBlock f b => cases List.mem_singleton.1 new
      | nodeStats f g => cases List.mem_singleton.1 new
      | _ => cases new
    | call c =>
      cases c with
      | issue f => cases ok
      | complete ticket node => cases ok
      | announce node => cases new
      | flush now => cases new
      | _ => cases List.mem_singleton.1 new
    | step j refusal =>
      simp only [System.act] at new
      cases found : h.system.jobs.get? j with
      | none =>
        rw [found] at new
        cases new
      | some job =>
        rw [found] at new
        cases (Job.of_mem_events new).1

/-- An answer stands in a log that begins with its announcement. -/
theorem log_of_answered (feed : ∀ m ∈ moves, m.OfFeed) {e : Event} {ticket : Ticket}
    (told : e ∈ (run store policy moves).trace) (answer : e.answered? = some ticket) :
    ∃ j node tail, e.job? = some j ∧ e.Answers j ticket node ∧
      logOf j (run store policy moves).trace = .announced j ticket node :: tail := by
  obtain ⟨j, own⟩ : ∃ j, e.job? = some j := by
    cases e with
    | installed j t n id previous => exact ⟨j, rfl⟩
    | superseded j t n id => exact ⟨j, rfl⟩
    | uncreated j t cause => exact ⟨j, rfl⟩
    | _ => cases answer
  have story := run_story store policy feed j
  obtain ⟨node, tail, log, answers⟩ :=
    story.announced_of_answered (mem_logOf.2 ⟨told, own⟩) answer
  exact ⟨j, node, tail, own, answers, log⟩

/-- An answer has its announcement before it. -/
theorem announced_before (feed : ∀ m ∈ moves, m.OfFeed) {a b : List Event} {e : Event}
    {ticket : Ticket} (place : (run store policy moves).trace = a ++ e :: b)
    (answer : e.answered? = some ticket) :
    ∃ j node, e.Answers j ticket node ∧ .announced j ticket node ∈ a := by
  have told : e ∈ (run store policy moves).trace := place ▸ by simp
  obtain ⟨j, node, tail, own, answers, log⟩ := log_of_answered feed told answer
  refine ⟨j, node, answers, ?_⟩
  rw [logOf_split place own] at log
  cases before : logOf j a with
  | nil =>
    rw [before] at log
    obtain rfl := (List.cons.inj log).1
    cases answer
  | cons x rest =>
    rw [before] at log
    obtain rfl := (List.cons.inj log).1
    exact mem_of_mem_logOf (before ▸ List.mem_cons_self)

/-- An announcement that waits no longer has its answer. -/
theorem exists_answer (feed : ∀ m ∈ moves, m.OfFeed) {j : JobId} {ticket : Ticket}
    {node : Announcement} (announced : .announced j ticket node ∈ (run store policy moves).trace)
    (answered : ∀ told, (run store policy moves).job? j ≠
      some (.announcing told (.creating ticket node))) :
    ∃ e ∈ (run store policy moves).trace, e.Answers j ticket node := by
  have story := run_story store policy feed j
  have own : .announced j ticket node ∈ logOf j (run store policy moves).trace :=
    mem_logOf.2 ⟨announced, rfl⟩
  rcases story.announcement with quiet | ⟨flag, t, n, log, waits⟩ |
    ⟨t, n, e, tail, log, answers, quiet⟩
  · exact absurd rfl (quiet _ own)
  · rw [log] at own
    cases List.mem_singleton.1 own
    exact absurd waits (answered flag)
  · have inTrace : e ∈ (run store policy moves).trace :=
      mem_of_mem_logOf (log ▸ by simp : e ∈ logOf j (run store policy moves).trace)
    rw [log] at own
    rcases List.mem_cons.1 own with same | own
    · cases same
      exact ⟨e, inTrace, answers⟩
    · rcases List.mem_cons.1 own with rfl | late
      · cases answers.answered?
      · exact absurd rfl (quiet _ late)

end History

end NodeWatch
