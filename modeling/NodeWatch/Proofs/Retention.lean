/-
NodeWatch.Proofs.Retention — what a store in memory keeps.

A transcript lists the requests to a store with their answers.  Read on its
own it says which records were asked for, which location a record was given
last, and which entries were taken.

Main statement: whatever a store in memory is asked, from whatever id it goes
on and however many entries it keeps, there is just what its transcript says
(`memory_retains`).  The records have the ids that follow on the first one, each
id once; a record keeps the profile it was created with and has the location it
was given last; the history is the end of what was appended; a request is refused
just when there is no such record, which changes nothing; and whoever asks for the
latest id, a record or a history is told what is there.

An entry is put out of the history when the history is as long as the limit.
That is the right moment only because it is never longer (`rtake_concat`), and a
new record is new only because no record has an id above the latest one.
-/
import Mathlib.Data.List.DropRight
import NodeWatch.Proofs.Agreement

namespace NodeWatch

/-! ## 1. Stores that begin empty -/

namespace MemoryStore

/-- An empty store whose ids go on after `start` and that keeps `limit`
entries, but at least one. -/
def opened (start : DurableId) (limit : Nat) : MemoryStore :=
  { withLimit limit with latest := start }

theorem opened_zero (limit : Nat) : opened 0 limit = withLimit limit := rfl

theorem opened_defaultLimit (start : DurableId) : opened start defaultLimit = seeded start := rfl

theorem find_insert (s : MemoryStore) (latest d d' : DurableId) (record : Record) :
    { s with latest, records := s.records.insert d record }.find d' =
      if d = d' then some record else s.find d' :=
  s.records.get?_insert d d' record

end MemoryStore

namespace Store

/-! ## 2. What a transcript says -/

/-- A request and its answer. -/
structure Turn where
  request : Request
  answer : Answer

/-- Requests that are made one after the other. -/
def transcript (store : Store) : List Request → List Turn
  | [] => []
  | r :: rest => ⟨r, (store.respond r).1⟩ :: transcript (store.respond r).2 rest

theorem transcript_append (store : Store) (a b : List Request) :
    store.transcript (a ++ b) = store.transcript a ++ (store.after a).transcript b := by
  induction a generalizing store with
  | nil => rfl
  | cons r rest ih => simp [transcript, after, ih]

/-- The profile for which a turn asks for a record, and what is answered. -/
def Turn.creation? (t : Turn) : Option (Profile × Answer) :=
  match t.request with
  | .create profile => some (profile, t.answer)
  | _ => none

/-- The location that a turn has given the record with an id. -/
def Turn.location? (d : DurableId) (t : Turn) : Option Location :=
  match t.request, t.answer with
  | .setLocation d' location, .placed => if d' = d then some location else none
  | _, _ => none

/-- The entry that a turn has appended. -/
def Turn.entry? (t : Turn) : Option HistoryEntry :=
  match t.request, t.answer with
  | .append entry, .appended => some entry
  | _, _ => none

/-- The record that a request needs. -/
def Request.needs? : Request → Option DurableId
  | .setLocation d _ => some d
  | .append entry => some entry.node
  | _ => none

/-- The records that were asked for. -/
def creations (l : List Turn) : List (Profile × Answer) :=
  l.filterMap Turn.creation?

/-- The location that the record with an id was given last. -/
def lastLocation (l : List Turn) (d : DurableId) : Option Location :=
  (l.filterMap (Turn.location? d)).getLast?

/-- The entries that were appended. -/
def entries (l : List Turn) : List HistoryEntry :=
  l.filterMap Turn.entry?

theorem creations_concat (l : List Turn) (t : Turn) :
    creations (l ++ [t]) = creations l ++ t.creation?.toList := by
  rw [creations, List.filterMap_append]
  cases h : t.creation? <;> simp [creations, h]

theorem lastLocation_concat (l : List Turn) (t : Turn) (d : DurableId) :
    lastLocation (l ++ [t]) d = (t.location? d).or (lastLocation l d) := by
  rw [lastLocation, List.filterMap_append]
  cases h : t.location? d <;> simp [lastLocation, h]

theorem entries_concat (l : List Turn) (t : Turn) :
    entries (l ++ [t]) = entries l ++ t.entry?.toList := by
  rw [entries, List.filterMap_append]
  cases h : t.entry? <;> simp [entries, h]

/-! ## 3. What is kept -/

/-- Whether a store in memory holds what a transcript says. -/
structure Retains (start : DurableId) (limit : Nat) (l : List Turn) (s : MemoryStore) : Prop where
  /-- The latest id has moved on by one with every record. -/
  latest : s.latest.toInt = start.toInt + (creations l).length
  /-- The record number `n` has got the id number `n`.  It has the profile that
  it was asked for with, and the location that it was given last. -/
  created : ∀ (n : Nat) profile answer, (creations l)[n]? = some (profile, answer) →
    ∃ d, answer = .created d ∧ d.toInt = start.toInt + (n + 1) ∧
      s.find d = some ⟨d, profile, lastLocation l d⟩
  /-- There are no other records. -/
  known : ∀ d, (s.find d).isSome = true ↔ start.toInt < d.toInt ∧ d.toInt ≤ s.latest.toInt
  /-- The history is the end of what was appended, as long as it may be. -/
  history : s.history.toList = (entries l).rtake s.limit
  limit : s.limit = max limit 1
  /-- Every entry names a record. -/
  named : ∀ e ∈ entries l, (s.find e.node).isSome = true
  /-- Only a record has a location. -/
  located : ∀ d, s.find d = none → lastLocation l d = none

/-- Putting the oldest entry out of a full history, and only then, keeps the end
of what was appended. -/
theorem rtake_concat {l kept : List HistoryEntry} {limit : Nat} (positive : 1 ≤ limit)
    (held : kept = l.rtake limit) (e : HistoryEntry) :
    (if kept.length = limit then kept.drop 1 else kept) ++ [e] = (l ++ [e]).rtake limit := by
  obtain ⟨n, rfl⟩ : ∃ n, limit = n + 1 := ⟨limit - 1, by omega⟩
  rw [List.rtake_concat_succ]
  congr 1
  subst held
  simp only [List.rtake, List.length_drop, List.drop_drop]
  split
  · congr 1
    omega
  · have short : l.length ≤ n := by omega
    have none : l.length - (n + 1) = 0 := by omega
    have none' : l.length - n = 0 := by omega
    rw [none, none']

namespace Retains

variable {start : DurableId} {limit : Nat} {l : List Turn} {s : MemoryStore}

theorem opened (start : DurableId) (limit : Nat) :
    Retains start limit [] (.opened start limit) where
  latest := by simp [creations, MemoryStore.opened]
  created := by simp [creations]
  known := by
    intro d
    have none : (MemoryStore.opened start limit).find d = none := rfl
    have latest : (MemoryStore.opened start limit).latest = start := rfl
    rw [none, latest]
    simp only [Option.isSome_none, Bool.false_eq_true, false_iff]
    omega
  history := by simp [MemoryStore.opened, MemoryStore.withLimit, entries]
  limit := rfl
  named := by simp [entries]
  located := fun _ _ => rfl

/-- A turn that asks for no record, sets no location and appends nothing leaves
all as it is. -/
theorem idle (h : Retains start limit l s) {t : Turn} (creation : t.creation? = none)
    (location : ∀ d, t.location? d = none) (entry : t.entry? = none) :
    Retains start limit (l ++ [t]) s := by
  have creations : creations (l ++ [t]) = creations l := by simp [creations_concat, creation]
  have entries : entries (l ++ [t]) = entries l := by simp [entries_concat, entry]
  have lastLocation (d : DurableId) : lastLocation (l ++ [t]) d = lastLocation l d := by
    simp [lastLocation_concat, location]
  refine ⟨?_, ?_, h.known, ?_, h.limit, ?_, ?_⟩
  · rw [creations, h.latest]
  · simpa only [creations, lastLocation] using h.created
  · rw [entries, h.history]
  · rw [entries]
    exact h.named
  · simpa only [lastLocation] using h.located

/-- A record comes in under the next id. -/
theorem create (h : Retains start limit l s) {id : DurableId}
    (next : Word.add s.latest 1 = .ok id) (profile : Profile) :
    Retains start limit (l ++ [⟨.create profile, .created id⟩])
      { s with latest := id, records := s.records.insert id ⟨id, profile, none⟩ } := by
  have above : id.toInt = s.latest.toInt + 1 := Word.toInt_of_signed next
  have absent : s.find id = none := by
    rw [← Option.not_isSome_iff_eq_none, h.known]
    omega
  have find (d : DurableId) := s.find_insert id id d ⟨id, profile, none⟩
  have unplaced (d : DurableId) :
      lastLocation (l ++ [⟨.create profile, .created id⟩]) d = lastLocation l d := by
    simp [lastLocation_concat, Turn.location?]
  have asked : creations (l ++ [⟨.create profile, .created id⟩]) =
      creations l ++ [(profile, .created id)] := by
    simp [creations_concat, Turn.creation?]
  have taken : entries (l ++ [⟨.create profile, .created id⟩]) = entries l := by
    simp [entries_concat, Turn.entry?]
  have latest := h.latest
  refine ⟨?_, ?_, ?_, ?_, h.limit, ?_, ?_⟩
  · rw [asked, List.length_append, List.length_singleton]
    show id.toInt = _
    omega
  · intro n profile' answer place
    rw [asked] at place
    rcases Nat.lt_or_ge n (creations l).length with old | new
    · rw [List.getElem?_append_left old] at place
      obtain ⟨d, rfl, number, found⟩ := h.created n profile' answer place
      have other : id ≠ d := by
        rintro rfl
        rw [absent] at found
        cases found
      exact ⟨d, rfl, number, by rw [find, if_neg other, found, unplaced]⟩
    · rw [List.getElem?_append_right new, List.getElem?_singleton] at place
      split at place
      · next last =>
        cases place
        refine ⟨id, rfl, by omega, ?_⟩
        rw [find, if_pos rfl, unplaced, h.located id absent]
      · cases place
  · intro d
    show _ ↔ start.toInt < d.toInt ∧ d.toInt ≤ id.toInt
    rw [find]
    split
    · next same =>
      subst same
      simp
      omega
    · next other =>
      have apart : d.toInt ≠ id.toInt := fun same => other (Int64.toInt_inj.1 same).symm
      rw [h.known]
      omega
  · rw [taken]
    exact h.history
  · intro e member
    rw [taken] at member
    rw [find]
    split
    · rfl
    · exact h.named e member
  · intro d none
    rw [find] at none
    split at none
    · cases none
    · rw [unplaced, h.located d none]

/-- The location of a record is replaced. -/
theorem place (h : Retains start limit l s) {d : DurableId} {record : Record}
    (stored : s.find d = some record) (location : Location) :
    Retains start limit (l ++ [⟨.setLocation d location, .placed⟩])
      { s with records := s.records.insert d { record with location := some location } } := by
  have find (d' : DurableId) :=
    s.find_insert s.latest d d' { record with location := some location }
  have placed (d' : DurableId) : lastLocation (l ++ [⟨.setLocation d location, .placed⟩]) d' =
      if d = d' then some location else lastLocation l d' := by
    rw [lastLocation_concat]
    by_cases this : d = d' <;> simp [Turn.location?, this]
  have asked : creations (l ++ [⟨.setLocation d location, .placed⟩]) = creations l := by
    simp [creations_concat, Turn.creation?]
  have taken : entries (l ++ [⟨.setLocation d location, .placed⟩]) = entries l := by
    simp [entries_concat, Turn.entry?]
  have known (d' : DurableId) : (if d = d' then some { record with location := some location }
      else s.find d').isSome = (s.find d').isSome := by
    split
    · next this =>
      subst this
      rw [stored]
      rfl
    · rfl
  refine ⟨?_, ?_, ?_, ?_, h.limit, ?_, ?_⟩
  · rw [asked]
    exact h.latest
  · intro n profile answer place
    rw [asked] at place
    obtain ⟨d', rfl, number, found⟩ := h.created n profile answer place
    refine ⟨d', rfl, number, ?_⟩
    rw [find, placed]
    by_cases this : d = d'
    · subst this
      rw [stored] at found
      cases found
      simp
    · rw [if_neg this, if_neg this, found]
  · intro d'
    rw [find, known]
    exact h.known d'
  · rw [taken]
    exact h.history
  · intro e member
    rw [taken] at member
    rw [find, known]
    exact h.named e member
  · intro d' none
    rw [find] at none
    rw [placed]
    split at none
    · cases none
    · next other => rw [if_neg other, h.located d' none]

/-- An entry comes to the end of the history. -/
theorem append (h : Retains start limit l s) (entry : HistoryEntry)
    (stored : (s.find entry.node).isSome = true) :
    Retains start limit (l ++ [⟨.append entry, .appended⟩])
      { s with history := (if s.history.size = s.limit then
          s.history.extract 1 s.history.size else s.history).push entry } := by
  have unplaced (d : DurableId) :
      lastLocation (l ++ [⟨.append entry, .appended⟩]) d = lastLocation l d := by
    simp [lastLocation_concat, Turn.location?]
  have asked : creations (l ++ [⟨.append entry, .appended⟩]) = creations l := by
    simp [creations_concat, Turn.creation?]
  have taken : entries (l ++ [⟨.append entry, .appended⟩]) = entries l ++ [entry] := by
    simp [entries_concat, Turn.entry?]
  refine ⟨?_, ?_, h.known, ?_, h.limit, ?_, ?_⟩
  · rw [asked]
    exact h.latest
  · intro n profile answer place
    rw [asked] at place
    rw [funext unplaced]
    exact h.created n profile answer place
  · have positive : 1 ≤ s.limit := by
      rw [h.limit]
      omega
    have full : s.history.toList.length = s.history.size := rfl
    rw [taken, ← rtake_concat positive h.history entry, Array.toList_push, full]
    congr 1
    split
    · rw [Array.toList_extract, List.extract_eq_take_drop, List.take_of_length_le]
      rw [List.length_drop, full]
    · rfl
  · intro e member
    rw [taken] at member
    rcases List.mem_append.1 member with old | new
    · exact h.named e old
    · rw [List.mem_singleton.1 new]
      exact stored
  · rw [funext unplaced]
    exact h.located

/-! ## 4. One request -/

/-- What a store in memory answers to a request, and that it holds what the
transcript with it says.  Of the requests that need a record, those for which
there is none are refused, and then the store is as it was. -/
theorem respond (h : Retains start limit l s) (r : Request)
    (room : r.isCreate = true → start.toInt + (creations l).length + 1 < 2 ^ 63) :
    ∃ answer s', (memory s).respond r = (answer, memory s') ∧
      Retains start limit (l ++ [⟨r, answer⟩]) s' ∧
      ∀ cause, answer = .failed cause ↔
        ∃ d, r.needs? = some d ∧ s.find d = none ∧ cause = .notFound d := by
  cases r with
  | create profile =>
    have one : (1 : Int64).toInt = 1 := rfl
    have low := s.latest.le_toInt
    have latest := h.latest
    have fits : Word.FitsSigned (s.latest.toInt + (1 : Int64).toInt) := by
      have room := room rfl
      unfold Word.FitsSigned
      omega
    have next : Word.add s.latest 1 = .ok _ := if_pos fits
    refine ⟨.created _, _, ?_, h.create next profile, by simp [Request.needs?]⟩
    simp [Store.respond, Store.create, MemoryStore.create, next, bind, Except.bind, pure,
      Except.pure, Except.map]
  | setLocation d location =>
    cases stored : s.find d with
    | some record =>
      refine ⟨.placed, _, ?_, h.place stored location, by simp [Request.needs?, stored]⟩
      rw [MemoryStore.find] at stored
      simp [Store.respond, setLocation, MemoryStore.setLocation, stored, Except.map]
    | none =>
      refine ⟨.failed (.notFound d), s, ?_, h.idle rfl (fun _ => rfl) rfl, ?_⟩
      · rw [MemoryStore.find] at stored
        simp [Store.respond, setLocation, MemoryStore.setLocation, stored, Except.map]
      · simp [Request.needs?, stored, eq_comm]
  | append entry =>
    cases stored : (s.find entry.node).isSome with
    | true =>
      refine ⟨.appended, _, ?_, h.append entry stored, ?_⟩
      · rw [MemoryStore.find] at stored
        simp [Store.respond, Store.append, MemoryStore.append, Table.contains, stored, Except.map]
      · rw [Option.isSome_iff_ne_none] at stored
        simp [Request.needs?, stored]
    | false =>
      refine ⟨.failed (.notFound entry.node), s, ?_, h.idle rfl (fun _ => rfl) rfl, ?_⟩
      · rw [MemoryStore.find] at stored
        simp [Store.respond, Store.append, MemoryStore.append, Table.contains, stored, Except.map]
      · rw [Option.isSome_eq_false_iff, Option.isNone_iff_eq_none] at stored
        simp [Request.needs?, stored, eq_comm]
  | find d => exact ⟨_, s, rfl, h.idle rfl (fun _ => rfl) rfl, by simp [Request.needs?]⟩
  | latest => exact ⟨_, s, rfl, h.idle rfl (fun _ => rfl) rfl, by simp [Request.needs?]⟩
  | historyOf d => exact ⟨_, s, rfl, h.idle rfl (fun _ => rfl) rfl, by simp [Request.needs?]⟩

end Retains

/-! ## 5. All requests -/

theorem length_creations (store : Store) (requests : List Request) :
    (creations (store.transcript requests)).length = requests.countP Request.isCreate := by
  induction requests generalizing store with
  | nil => rfl
  | cons r rest ih =>
    rw [creations, transcript, List.filterMap_cons, List.countP_cons, ← ih (store.respond r).2]
    cases r <;> simp [Turn.creation?, Request.isCreate, creations]

/-- Where there is an id for a request, there is one after those before it. -/
theorem room_of_ids (store : Store) {start : DurableId} {before : List Request} {r : Request}
    (ids : start.toInt + (before ++ [r]).countP Request.isCreate < 2 ^ 63)
    (create : r.isCreate = true) :
    start.toInt + (creations (store.transcript before)).length + 1 < 2 ^ 63 := by
  rw [List.countP_append, List.countP_singleton, if_pos create] at ids
  rw [length_creations]
  omega

/-- While there are ids, a store holds what its transcript says.  By induction
from the right: the last request finds what those before it have left. -/
theorem exists_retains (start : DurableId) (limit : Nat) {requests : List Request}
    (ids : start.toInt + requests.countP Request.isCreate < 2 ^ 63) :
    ∃ s, (memory (.opened start limit)).after requests = memory s ∧
      Retains start limit ((memory (.opened start limit)).transcript requests) s := by
  induction requests using List.reverseRecOn with
  | nil => exact ⟨_, rfl, .opened start limit⟩
  | append_singleton before r ih =>
    have fewer : before.countP Request.isCreate ≤ (before ++ [r]).countP Request.isCreate :=
      (List.sublist_append_left before [r]).countP_le
    obtain ⟨s, reached, retains⟩ := ih (by omega)
    obtain ⟨answer, s', answered, retains', -⟩ := retains.respond r (room_of_ids _ ids)
    refine ⟨s', ?_, ?_⟩
    · rw [after_append, reached]
      exact congrArg Prod.snd answered
    · rw [transcript_append, reached]
      simpa only [transcript, answered] using retains'

/-- What a store in memory has come to, for ids that go on after `start` and a
limit, when it has been asked for this and that. -/
structure Retention (start : DurableId) (limit : Nat) (requests : List Request)
    (s : MemoryStore) : Prop where
  /-- It holds what its transcript says. -/
  retains : Retains start limit ((memory (.opened start limit)).transcript requests) s
  /-- The latest id, as the store tells it, is the number of records beyond
  `start`. -/
  latest : ((memory (.opened start limit)).after requests).latest.toInt =
    start.toInt + (creations ((memory (.opened start limit)).transcript requests)).length
  /-- Asked for the latest id, for a record or for a history, the store answers
  what it holds, and stays as it is. -/
  asked : ((memory (.opened start limit)).after requests).respond .latest =
      (.latest s.latest, memory s) ∧
    (∀ d, ((memory (.opened start limit)).after requests).respond (.find d) =
      (.found (s.find d), memory s)) ∧
    ∀ d, ((memory (.opened start limit)).after requests).respond (.historyOf d) =
      (.history (s.historyOf d), memory s)
  /-- It is as long as what was appended, but not longer than the limit. -/
  length : s.history.size =
    min (max limit 1) (entries ((memory (.opened start limit)).transcript requests)).length
  /-- The entries of a node are those of the history, in their order. -/
  histories : ∀ d, s.historyOf d =
    ((entries ((memory (.opened start limit)).transcript requests)).rtake (max limit 1)).filter
      fun e => decide (e.node = d)
  /-- On the way, a request was refused just when there was not the record that
  it needs. -/
  refused : ∀ before r later, requests = before ++ r :: later → ∀ cause,
    (((memory (.opened start limit)).after before).respond r).1 = .failed cause ↔
      ∃ d, r.needs? = some d ∧ ((memory (.opened start limit)).after before).find d = none ∧
        cause = .notFound d
  /-- That changed nothing. -/
  unchanged : ∀ before r later, requests = before ++ r :: later → ∀ cause,
    (((memory (.opened start limit)).after before).respond r).1 = .failed cause →
      (((memory (.opened start limit)).after before).respond r).2 =
        (memory (.opened start limit)).after before

/-- A store in memory keeps all records, the last location of each, and the end
of the history, as long as there are ids. -/
theorem memory_retains (start : DurableId) (limit : Nat) (requests : List Request)
    (ids : start.toInt + requests.countP Request.isCreate < 2 ^ 63) :
    ∃ s, (memory (.opened start limit)).after requests = memory s ∧
      Retention start limit requests s := by
  obtain ⟨s, reached, retains⟩ := exists_retains start limit ids
  refine ⟨s, reached, retains, ?_, ?_, ?_, ?_, ?_, ?_⟩
  · rw [reached]
    exact retains.latest
  · rw [reached]
    exact ⟨rfl, fun d => rfl, fun d => rfl⟩
  · have size : s.history.toList.length = s.history.size := rfl
    rw [← size, retains.history, retains.limit, List.rtake, List.length_drop]
    omega
  · intro d
    rw [MemoryStore.historyOf, retains.history, retains.limit]
  · intro before r later place cause
    rw [place, List.append_cons, List.countP_append] at ids
    have fewer : before.countP Request.isCreate ≤ (before ++ [r]).countP Request.isCreate :=
      (List.sublist_append_left before [r]).countP_le
    obtain ⟨s, reached, retains⟩ := exists_retains start limit
      (show start.toInt + before.countP Request.isCreate < 2 ^ 63 by omega)
    obtain ⟨answer, s', answered, -, fails⟩ := retains.respond r (room_of_ids _ (by omega))
    rw [reached, answered]
    exact fails cause
  · intro before r later place cause fails
    refine respond_of_failure ?_
    rw [fails]
    rfl

/-- Two nodes after the id 41, and three entries where two are kept. -/
def exampleEvicting : List Request :=
  [.create ⟨"a", "", "", none, none, none⟩, .create ⟨"b", "", "", none, none, none⟩,
    .setLocation 43 (exampleLocation "Oslo"), .setLocation 44 (exampleLocation "Rome"),
    .append ⟨42, 1, none, none, 0, 0, 1, "0x1", 0, none⟩,
    .append ⟨43, 2, none, none, 0, 0, 2, "0x2", 0, none⟩,
    .append ⟨42, 3, none, none, 0, 0, 3, "0x3", 0, none⟩]

theorem memory_retains_exampleEvicting :
    (41 : DurableId).toInt + exampleEvicting.countP Request.isCreate < 2 ^ 63 ∧
      ∃ s, (memory (.opened 41 2)).after exampleEvicting = memory s ∧
        Retention 41 2 exampleEvicting s :=
  ⟨by decide, memory_retains 41 2 exampleEvicting (by decide)⟩

end Store

end NodeWatch
