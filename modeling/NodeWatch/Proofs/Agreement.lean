/-
NodeWatch.Proofs.Agreement — the two stores answer alike.

A store is asked one thing after the other and answers each (`respond`).  The
store in memory and the store of tables are laid out differently: a record with
its location in one place, or a row of each of two tables; entries as they are,
or rows of signed columns; one counter for the ids, or a sequence beside the
highest row number.  That they hold the same all the same is a relation between
them (`Twins`), which every request keeps while it gets matching answers from
both (`Twins.respond`).

Main statement: two stores that begin empty match in every answer, whatever they
are asked, as long as the requests are `Admissible`: no coordinate is
not-a-number, counters fit a signed column, there are fewer records than ids, and
the store in memory has room for the entries (`stores_agree`).  They differ only
in the error for an entry of a node without a record.  Coordinates are the same
as values, since tables keep zeros without their sign.  A request that fails
leaves no trace in any later answer.
-/
import Mathlib.Data.List.Induction
import NodeWatch.Proofs.System.Attribution

namespace NodeWatch

/-! ## 1. Requests and answers -/

/-- Whether two locations are the same as values. -/
structure Location.SameValues (a b : Location) : Prop where
  lat : a.lat.sameValue b.lat = true
  lng : a.lng.sameValue b.lng = true
  city : a.city = b.city

/-- Whether two records are the same, their coordinates as values. -/
structure Record.SameValues (a b : Record) : Prop where
  id : a.id = b.id
  profile : a.profile = b.profile
  location : Option.Rel Location.SameValues a.location b.location

namespace Store

/-- What a store may be asked. -/
inductive Request where
  | create (profile : Profile)
  | find (id : DurableId)
  | setLocation (id : DurableId) (location : Location)
  | append (entry : HistoryEntry)
  | latest
  | historyOf (id : DurableId)

/-- What a store answers. -/
inductive Answer where
  | created (id : DurableId)
  | found (record : Option Record)
  | placed
  | appended
  | latest (id : DurableId)
  | history (entries : List HistoryEntry)
  | failed (cause : StoreError)
  /-- There is no answer: the program has run out of ids. -/
  | lost (cause : Overflow)
  deriving DecidableEq

/-- The answer to a request, and the store after it. -/
def respond (store : Store) : Request → Answer × Store
  | .create profile =>
    match store.create profile with
    | .error cause => (.lost cause, store)
    | .ok (.error cause) => (.failed cause, store)
    | .ok (.ok (id, store')) => (.created id, store')
  | .find id => (.found (store.find id), store)
  | .setLocation id location =>
    match store.setLocation id location with
    | .error cause => (.failed cause, store)
    | .ok store' => (.placed, store')
  | .append entry =>
    match store.append entry with
    | .error cause => (.failed cause, store)
    | .ok store' => (.appended, store')
  | .latest => (.latest store.latest, store)
  | .historyOf id => (.history (store.historyOf id), store)

/-- The answers to requests that are made one after the other. -/
def answers (store : Store) : List Request → List Answer
  | [] => []
  | r :: rest => (store.respond r).1 :: answers (store.respond r).2 rest

/-- The store after some requests. -/
def after (store : Store) (requests : List Request) : Store :=
  requests.foldl (fun store r => (store.respond r).2) store

theorem after_append (store : Store) (a b : List Request) :
    store.after (a ++ b) = (store.after a).after b :=
  List.foldl_append

theorem answers_append (store : Store) (a b : List Request) :
    store.answers (a ++ b) = store.answers a ++ (store.after a).answers b := by
  induction a generalizing store with
  | nil => rfl
  | cons r rest ih => simp [answers, after, ih]

theorem length_answers (store : Store) (requests : List Request) :
    (store.answers requests).length = requests.length := by
  induction requests generalizing store with
  | nil => rfl
  | cons r rest ih => simp [answers, ih]

/-- Whether a request is for a record. -/
def Request.isCreate : Request → Bool
  | .create _ => true
  | _ => false

/-- Whether an entry has been taken. -/
def Answer.isAppended : Answer → Bool
  | .appended => true
  | _ => false

/-- Whether a request has failed. -/
def Answer.isFailure : Answer → Bool
  | .failed _ | .lost _ => true
  | _ => false

/-- Whether the columns of tables hold the numbers of a request. -/
def Request.Fits : Request → Prop
  | .setLocation _ location => location.lat.isNaN = false ∧ location.lng.isNaN = false
  | .append entry =>
    (∀ n ∈ entry.avgBlockTime, n ≤ Word.signedMax) ∧
      (∀ n ∈ entry.avgPropagationTime, n ≤ Word.signedMax) ∧
      entry.bestNumber ≤ Word.signedMax ∧ entry.blocks ≤ Word.signedMax
  | _ => True

/-- Requests for which a store in memory with a limit and a store of tables
have room. -/
structure Admissible (limit : Nat) (requests : List Request) : Prop where
  fit : ∀ r ∈ requests, r.Fits
  /-- There is an id for every record. -/
  ids : requests.countP Request.isCreate < 2 ^ 63 - 1
  /-- No entry is put out. -/
  entries : ((memory (.withLimit limit)).answers requests).countP Answer.isAppended ≤ limit

/-- How the answers of a store in memory and of a store of tables match, where
`known` says which records there are.  They are the same, but for the error
where there is no record for an entry. -/
def Matches (known : DurableId → Prop) (r : Request) (a b : Answer) : Prop :=
  match r, a, b with
  | .append entry, a, b =>
    (known entry.node → a = .appended ∧ b = .appended) ∧
      (¬ known entry.node →
        a = .failed (.notFound entry.node) ∧ ∃ reason, b = .failed (.database reason))
  | .find _, .found a, .found b => Option.Rel Record.SameValues a b
  | _, a, b => a = b

end Store

/-! ## 2. Columns -/

theorem Binary64.sameValue_refl {x : Binary64} (number : x.isNaN = false) :
    x.sameValue x = true := by
  simp [sameValue, number]

/-- A number fits its column, which keeps its value. -/
theorem Column.ofDouble_of_number {x : Binary64} (number : x.isNaN = false) :
    ∃ y, ofDouble x = some y ∧ x.sameValue y = true := by
  cases zero : x.isZero with
  | true =>
    have base : (Binary64.ofNat 0).isZero = true := by decide
    exact ⟨.ofNat 0, by simp [ofDouble, number, zero], by simp [Binary64.sameValue, base, zero]⟩
  | false =>
    exact ⟨x, by simp [ofDouble, number, zero], Binary64.sameValue_refl number⟩

theorem Column.ofUnsigned_of_le {n : UInt64} (small : n ≤ Word.signedMax) :
    ofUnsigned n = .ok n.toInt64 := by
  rw [ofUnsigned, if_pos small]

theorem Column.mapM_ofUnsigned_of_le {n : Option UInt64}
    (small : ∀ m ∈ n, m ≤ Word.signedMax) :
    n.mapM ofUnsigned = .ok (n.map UInt64.toInt64) := by
  cases n with
  | none => rfl
  | some m =>
    rw [Option.mapM_some, ofUnsigned_of_le (small m rfl)]
    rfl

theorem Column.toUnsigned_of_ofUnsigned {n : UInt64} {column : Int64}
    (made : ofUnsigned n = .ok column) : toUnsigned column = n := by
  unfold ofUnsigned at made
  split at made
  · cases made
    simp [toUnsigned]
  · cases made

theorem Column.exists_of_mapM_ofUnsigned {n : UInt64} {column : Option Int64}
    (made : (some n).mapM ofUnsigned = .ok column) :
    ∃ c, ofUnsigned n = .ok c ∧ column = some c := by
  rw [Option.mapM_some] at made
  cases one : ofUnsigned n with
  | error cause => simp [one, Functor.map, Except.map] at made
  | ok c =>
    rw [one] at made
    cases made
    exact ⟨c, rfl, rfl⟩

theorem Column.map_toUnsigned_of_mapM {n : Option UInt64} {column : Option Int64}
    (made : n.mapM ofUnsigned = .ok column) : column.map toUnsigned = n := by
  cases n with
  | none =>
    cases made
    rfl
  | some m =>
    obtain ⟨c, one, rfl⟩ := exists_of_mapM_ofUnsigned made
    exact congrArg some (toUnsigned_of_ofUnsigned one)

/-- An entry is read back from its row as it was. -/
theorem HistoryRow.toEntry_of_ofEntry {entry : HistoryEntry} {row : HistoryRow}
    (made : ofEntry entry = .ok row) : row.toEntry = entry := by
  simp only [ofEntry, bind_eq_ok] at made
  obtain ⟨blockTime, h₁, propagationTime, h₂, number, h₃, blocks, h₄, made⟩ := made
  cases made
  simp [toEntry, Column.map_toUnsigned_of_mapM h₁, Column.map_toUnsigned_of_mapM h₂,
    Column.toUnsigned_of_ofUnsigned h₃, Column.toUnsigned_of_ofUnsigned h₄]

theorem HistoryRow.exists_ofEntry {entry : HistoryEntry}
    (fits : (Store.Request.append entry).Fits) : ∃ row, ofEntry entry = .ok row := by
  obtain ⟨blockTime, propagationTime, number, blocks⟩ := fits
  cases made : ofEntry entry with
  | ok row => exact ⟨row, rfl⟩
  | error cause =>
    simp only [ofEntry, Column.mapM_ofUnsigned_of_le blockTime,
      Column.mapM_ofUnsigned_of_le propagationTime, Column.ofUnsigned_of_le number,
      Column.ofUnsigned_of_le blocks, bind, Except.bind] at made
    cases made

/-! ## 3. Stores that hold the same -/

/-- Whether a store in memory and a store of tables hold the same.  That they
have the same highest id, and nothing above it, is what the next id comes from;
that nobody without a record has a location, what a new record has. -/
structure Twins (s : MemoryStore) (t : TableStore) : Prop where
  sequence : t.sequence = s.latest
  highest : t.latest = s.latest
  records : ∀ d, Option.Rel Record.SameValues (s.find d) (t.find d)
  below : ∀ d, t.nodes.contains d = true → d.toInt ≤ s.latest.toInt
  located : ∀ d, t.nodes.contains d = false → t.locations.get? d = none
  history : t.history.toList.map HistoryRow.toEntry = s.history.toList

/-- A new highest row number is that of the row that is put in. -/
theorem TableStore.latest_insert {t : TableStore} {id : DurableId}
    (absent : t.nodes.contains id = false) {profile : Profile} {sequence : DurableId} :
    TableStore.latest { t with nodes := t.nodes.insert id profile, sequence } =
      if t.latest < id then id else t.latest := by
  have keys (t : TableStore) : t.latest = (t.nodes.entries.map Prod.fst).foldl
      (fun highest d => if highest < d then d else highest) 0 := by
    rw [TableStore.latest, List.foldl_map]
  have fresh : id ∉ t.nodes.entries.map Prod.fst := by
    rw [← Table.lookup_eq_none_iff]
    simpa [Table.contains, Table.get?] using absent
  rw [keys, keys]
  simp only [Table.insert, Table.keys_put, if_neg fresh, List.foldl_append, List.foldl_cons,
    List.foldl_nil]

namespace Twins

theorem empty (limit : Nat) : Twins (.withLimit limit) .empty where
  sequence := rfl
  highest := rfl
  records := fun _ => .none
  below := by
    intro d known
    cases known
  located := fun _ _ => rfl
  history := rfl

variable {s : MemoryStore} {t : TableStore}

/-- A record has its row, and the two agree. -/
theorem row_of_record (twins : Twins s t) {d : DurableId} {record : Record}
    (stored : s.records.get? d = some record) :
    ∃ profile, t.nodes.get? d = some profile ∧
      record.SameValues ⟨d, profile, t.locations.get? d⟩ := by
  have same := twins.records d
  simp only [MemoryStore.find, TableStore.find, stored] at same
  cases row : t.nodes.get? d with
  | none =>
    rw [row] at same
    cases same
  | some profile =>
    rw [row] at same
    cases same with
    | some agrees => exact ⟨profile, rfl, agrees⟩

theorem row_of_none (twins : Twins s t) {d : DurableId} (unknown : s.records.get? d = none) :
    t.nodes.get? d = none := by
  have same := twins.records d
  simp only [MemoryStore.find, TableStore.find, unknown] at same
  cases row : t.nodes.get? d with
  | none => rfl
  | some profile =>
    rw [row] at same
    cases same

theorem contains (twins : Twins s t) (d : DurableId) :
    t.nodes.contains d = s.records.contains d := by
  cases stored : s.records.get? d with
  | none => simp [Table.contains, stored, twins.row_of_none stored]
  | some record =>
    obtain ⟨profile, row, -⟩ := twins.row_of_record stored
    simp [Table.contains, stored, row]

theorem toInt_next {latest id : DurableId} (next : Word.add latest 1 = .ok id) :
    id.toInt = latest.toInt + 1 :=
  Word.toInt_of_signed next

/-- The next id is above all that there are. -/
theorem new (twins : Twins s t) {id : DurableId} (next : Word.add s.latest 1 = .ok id) :
    t.nodes.contains id = false := by
  cases known : t.nodes.contains id with
  | false => rfl
  | true =>
    have below := twins.below id known
    have above := toInt_next next
    omega

/-- Both stores take a record under the next id. -/
theorem created (twins : Twins s t) {id : DurableId} (next : Word.add s.latest 1 = .ok id)
    (profile : Profile) :
    Twins { s with latest := id, records := s.records.insert id ⟨id, profile, none⟩ }
      { t with nodes := t.nodes.insert id profile, sequence := id } where
  sequence := rfl
  highest := by
    have absent := twins.new next
    have above : s.latest < id := by
      rw [Int64.lt_iff_toInt_lt, toInt_next next]
      omega
    rw [← twins.highest] at above
    show TableStore.latest { t with nodes := t.nodes.insert id profile, sequence := id } = id
    rw [TableStore.latest_insert absent, if_pos above]
  records := by
    intro d
    have same := twins.records d
    simp only [MemoryStore.find, TableStore.find, Table.get?_insert] at same ⊢
    by_cases this : id = d
    · subst this
      rw [if_pos rfl, if_pos rfl, Option.map_some, twins.located id (twins.new next)]
      exact .some ⟨rfl, rfl, .none⟩
    · rw [if_neg this, if_neg this]
      exact same
  below := by
    intro d known
    show d.toInt ≤ id.toInt
    rw [Table.contains, Table.get?_insert] at known
    split at known
    · next same => exact Int.le_of_eq (congrArg Int64.toInt same.symm)
    · have below := twins.below d known
      have above := toInt_next next
      omega
  located := by
    intro d unknown
    rw [Table.contains, Table.get?_insert] at unknown
    split at unknown
    · cases unknown
    · exact twins.located d unknown
  history := twins.history

/-- Both stores replace the location of a record. -/
theorem relocated (twins : Twins s t) {d : DurableId} {record : Record}
    (stored : s.records.get? d = some record) {location kept : Location}
    (same : location.SameValues kept) :
    Twins { s with records := s.records.insert d { record with location := some location } }
      { t with locations := t.locations.insert d kept } where
  sequence := twins.sequence
  highest := twins.highest
  records := by
    intro d'
    have others := twins.records d'
    simp only [MemoryStore.find, TableStore.find, Table.get?_insert] at others ⊢
    by_cases this : d = d'
    · subst this
      obtain ⟨profile, row, agrees⟩ := twins.row_of_record stored
      rw [if_pos rfl, if_pos rfl, row]
      exact .some ⟨agrees.id, agrees.profile, .some same⟩
    · rw [if_neg this, if_neg this]
      exact others
  below := twins.below
  located := by
    intro d' unknown
    have other : d ≠ d' := by
      rintro rfl
      rw [twins.contains, Table.contains, stored] at unknown
      cases unknown
    show (t.locations.insert d kept).get? d' = none
    rw [Table.get?_insert_of_ne _ _ other]
    exact twins.located d' unknown
  history := twins.history

/-- Both stores set the location of a record, or have no such record. -/
theorem placed (twins : Twins s t) (d : DurableId) (location : Location)
    (fits : (Store.Request.setLocation d location).Fits) :
    if s.records.contains d then
      ∃ s' t', s.setLocation d location = .ok s' ∧ t.setLocation d location = .ok t' ∧
        Twins s' t' ∧ s'.latest = s.latest ∧ s'.history = s.history ∧ s'.limit = s.limit ∧
        ∀ d', s'.records.contains d' = s.records.contains d'
    else s.setLocation d location = .error (.notFound d) ∧
      t.setLocation d location = .error (.notFound d) := by
  obtain ⟨lat, setLat, sameLat⟩ := Column.ofDouble_of_number fits.1
  obtain ⟨lng, setLng, sameLng⟩ := Column.ofDouble_of_number fits.2
  have contains := twins.contains d
  cases stored : s.records.get? d with
  | none =>
    have unknown : s.records.contains d = false := by simp [Table.contains, stored]
    rw [unknown] at contains ⊢
    simp [MemoryStore.setLocation, TableStore.setLocation, stored, contains]
  | some record =>
    have known : s.records.contains d = true := by simp [Table.contains, stored]
    rw [known] at contains
    rw [if_pos known]
    have same : location.SameValues ⟨lat, lng, location.city⟩ := ⟨sameLat, sameLng, rfl⟩
    refine ⟨_, _, ?_, ?_, twins.relocated stored same, rfl, rfl, rfl, ?_⟩
    · rw [MemoryStore.setLocation, stored]
    · simp only [TableStore.setLocation, contains, if_true, setLat, setLng]
    · intro d'
      by_cases this : d = d'
      · subst this
        simp [Table.contains, stored]
      · simp [Table.contains, Table.get?_insert_of_ne _ _ this]

/-- Both stores take an entry of a node that has a record, or refuse it, each
with its own error. -/
theorem appended (twins : Twins s t) (entry : HistoryEntry)
    (fits : (Store.Request.append entry).Fits)
    (room : s.records.contains entry.node = true → s.history.size ≠ s.limit) :
    if s.records.contains entry.node then
      ∃ t', s.append entry = .ok { s with history := s.history.push entry } ∧
        t.append entry = .ok t' ∧ Twins { s with history := s.history.push entry } t'
    else s.append entry = .error (.notFound entry.node) ∧ t.append entry = .error .foreignKey := by
  obtain ⟨row, made⟩ := HistoryRow.exists_ofEntry fits
  have node := HistoryRow.node_of_ofEntry made
  have contains := twins.contains entry.node
  cases known : s.records.contains entry.node with
  | false =>
    rw [known] at contains
    simp [MemoryStore.append, TableStore.append, known, made, node, contains, bind, Except.bind]
  | true =>
    rw [known] at contains
    refine ⟨{ t with history := t.history.push row }, ?_, ?_, ?_⟩
    · simp [MemoryStore.append, known, room known]
    · simp [TableStore.append, made, node, contains, bind, Except.bind, pure, Except.pure]
    · refine ⟨twins.sequence, twins.highest, twins.records, twins.below, twins.located, ?_⟩
      simp [twins.history, HistoryRow.toEntry_of_ofEntry made]

/-- Both stores have the same entries of a node, in the same order. -/
theorem historyOf (twins : Twins s t) (d : DurableId) : t.historyOf d = s.historyOf d := by
  rw [TableStore.historyOf, MemoryStore.historyOf, ← twins.history, List.filter_map]
  rfl

end Twins

/-! ## 4. Answers -/

namespace Store

/-- What a request and its answer make of a store in memory: a record more, an
entry more, or neither. -/
structure Accounts (s : MemoryStore) (r : Request) (a : Answer) (s' : MemoryStore) : Prop where
  latest : s'.latest.toInt = s.latest.toInt + if r.isCreate then 1 else 0
  size : s'.history.size = s.history.size + if a.isAppended then 1 else 0
  limit : s'.limit = s.limit
  known : ∀ d, s'.records.contains d = true ↔ s.records.contains d = true ∨ a = .created d

end Store

open Store

/-- Two stores that hold the same give matching answers to a request, and hold
the same after it. -/
theorem Twins.respond {s : MemoryStore} {t : TableStore} (twins : Twins s t) (r : Request)
    (fits : r.Fits)
    (ids : r.isCreate = true → ∃ id, Word.add s.latest 1 = .ok id)
    (room : ((memory s).respond r).1.isAppended = true → s.history.size ≠ s.limit) :
    ∃ a b s' t', (memory s).respond r = (a, memory s') ∧ (tables t).respond r = (b, tables t') ∧
      Matches (fun d => s.records.contains d = true) r a b ∧ Twins s' t' ∧ Accounts s r a s' := by
  -- requests that only read, and those that fail, leave both stores as they are
  have unchanged (a : Answer) (quiet : r.isCreate = false) (none : a.isAppended = false)
      (nobody : ∀ d, a ≠ .created d) : Accounts s r a s :=
    ⟨by simp [quiet], by simp [none], rfl, by simp [nobody]⟩
  cases r with
  | create profile =>
    obtain ⟨id, next⟩ := ids rfl
    refine ⟨.created id, .created id, _, _, ?_, ?_, rfl, twins.created next profile, ?_⟩
    · simp [Store.respond, create, MemoryStore.create, next, bind, Except.bind, pure, Except.pure,
        Except.map]
    · simp [Store.respond, create, TableStore.create, twins.sequence, next, Except.map]
    · refine ⟨Word.toInt_of_signed next, rfl, rfl, ?_⟩
      intro d
      simp only [Table.contains, Table.get?_insert, Answer.created.injEq]
      by_cases this : id = d <;> simp [this]
  | find d =>
    exact ⟨_, _, s, t, rfl, rfl, twins.records d, twins, unchanged _ rfl rfl (by simp)⟩
  | latest =>
    refine ⟨_, _, s, t, rfl, rfl, ?_, twins, unchanged _ rfl rfl (by simp)⟩
    exact congrArg Answer.latest twins.highest.symm
  | historyOf d =>
    refine ⟨_, _, s, t, rfl, rfl, ?_, twins, unchanged _ rfl rfl (by simp)⟩
    exact congrArg Answer.history (twins.historyOf d).symm
  | setLocation d location =>
    have placed := twins.placed d location fits
    split at placed
    · next known =>
      obtain ⟨s', t', inMemory, inTables, twins', latest, history, limit, records⟩ := placed
      refine ⟨.placed, .placed, s', t', ?_, ?_, rfl, twins', ?_⟩
      · simp [Store.respond, setLocation, inMemory, Except.map]
      · simp [Store.respond, setLocation, inTables, Except.map]
      · exact ⟨by simp [latest, Request.isCreate], by simp [history, Answer.isAppended], limit,
          by simp [records]⟩
    · next unknown =>
      refine ⟨.failed (.notFound d), .failed (.notFound d), s, t, ?_, ?_, rfl, twins,
        unchanged _ rfl rfl (by simp)⟩
      · simp [Store.respond, setLocation, placed.1, Except.map]
      · simp [Store.respond, setLocation, placed.2, Except.map]
  | append entry =>
    have room' (known : s.records.contains entry.node = true) : s.history.size ≠ s.limit := by
      refine room ?_
      simp [Store.respond, append, MemoryStore.append, known, Except.map, Answer.isAppended]
    have appended := twins.appended entry fits room'
    split at appended
    · next known =>
      obtain ⟨t', inMemory, inTables, twins'⟩ := appended
      refine ⟨.appended, .appended, _, t', ?_, ?_, ⟨fun _ => ⟨rfl, rfl⟩, absurd known⟩, twins', ?_⟩
      · simp [Store.respond, append, inMemory, Except.map]
      · simp [Store.respond, append, inTables, Except.map]
      · exact ⟨by simp [Request.isCreate], by simp [Answer.isAppended], rfl, by simp⟩
    · next unknown =>
      refine ⟨.failed (.notFound entry.node), .failed .foreignKey, s, t, ?_, ?_,
        ⟨fun known => absurd known unknown, fun _ => ⟨rfl, _, rfl⟩⟩, twins,
        unchanged _ rfl rfl (by simp)⟩
      · simp [Store.respond, append, appended.1, Except.map]
      · simp [Store.respond, append, appended.2, Except.map]

namespace Store

/-- A request that fails leaves the store as it was. -/
theorem respond_of_failure {store : Store} {r : Request}
    (fails : (store.respond r).1.isFailure = true) : (store.respond r).2 = store := by
  cases r with
  | create profile =>
    rcases made : store.create profile with cause | cause | ⟨d, store'⟩ <;>
      simp_all [respond, Answer.isFailure]
  | setLocation d location =>
    cases made : store.setLocation d location <;> simp_all [respond, Answer.isFailure]
  | append entry =>
    cases made : store.append entry <;> simp_all [respond, Answer.isFailure]
  | _ => rfl

/-- What the two stores hold after some requests. -/
structure Reached (limit : Nat) (before : List Request) (s : MemoryStore) (t : TableStore) : Prop
    extends Twins s t where
  inMemory : (memory (.withLimit limit)).after before = memory s
  inTables : (tables .empty).after before = tables t
  created : s.latest.toInt = before.countP Request.isCreate
  appended : s.history.size =
    ((memory (.withLimit limit)).answers before).countP Answer.isAppended
  kept : s.limit = max limit 1
  known : ∀ d, s.records.contains d = true ↔
    .created d ∈ (memory (.withLimit limit)).answers before

/-- One request more: the answers match, and the stores still hold the same. -/
theorem Reached.step {limit : Nat} {before : List Request} {s : MemoryStore} {t : TableStore}
    (reached : Reached limit before s t) (r : Request) (fits : r.Fits)
    (ids : (before ++ [r]).countP Request.isCreate < 2 ^ 63 - 1)
    (entries : ((memory (.withLimit limit)).answers (before ++ [r])).countP Answer.isAppended ≤
      limit) :
    Matches (fun d => .created d ∈ (memory (.withLimit limit)).answers before) r
        ((memory s).respond r).1 ((tables t).respond r).1 ∧
      ∃ s' t', Reached limit (before ++ [r]) s' t' := by
  have last : (memory (.withLimit limit)).answers (before ++ [r]) =
      (memory (.withLimit limit)).answers before ++ [((memory s).respond r).1] := by
    rw [answers_append, reached.inMemory]
    rfl
  have next : r.isCreate = true → ∃ id, Word.add s.latest 1 = .ok id := by
    intro create
    have counted : (before ++ [r]).countP Request.isCreate =
        before.countP Request.isCreate + 1 := by
      simp [List.countP_append, create]
    have one : (1 : Int64).toInt = 1 := rfl
    have fits : Word.FitsSigned (s.latest.toInt + (1 : Int64).toInt) := by
      rw [reached.created, one]
      unfold Word.FitsSigned
      omega
    exact ⟨_, if_pos fits⟩
  have room : ((memory s).respond r).1.isAppended = true → s.history.size ≠ s.limit := by
    intro appended
    rw [last, List.countP_append, List.countP_singleton, if_pos appended,
      ← reached.appended] at entries
    rw [reached.kept]
    omega
  obtain ⟨a, b, s', t', inMemory, inTables, same, twins, accounts⟩ :=
    reached.toTwins.respond r fits next room
  have known : (fun d => s.records.contains d = true) =
      fun d => .created d ∈ (memory (.withLimit limit)).answers before :=
    funext fun d => propext (reached.known d)
  rw [inMemory] at last
  rw [inMemory, inTables, ← known]
  refine ⟨same, s', t', ⟨twins, ?_, ?_, ?_, ?_, ?_, ?_⟩⟩
  · rw [after_append, reached.inMemory]
    exact congrArg Prod.snd inMemory
  · rw [after_append, reached.inTables]
    exact congrArg Prod.snd inTables
  · rw [accounts.latest, reached.created, List.countP_append, List.countP_singleton]
    split <;> simp
  · rw [accounts.size, reached.appended, last, List.countP_append, List.countP_singleton]
  · rw [accounts.limit, reached.kept]
  · intro d
    rw [accounts.known, reached.known, last]
    simp [eq_comm]

/-- Along all requests the stores hold the same.  By induction from the right:
the last request finds what those before it have left. -/
theorem exists_reached {limit : Nat} {requests : List Request}
    (admissible : Admissible limit requests) (before later : List Request)
    (place : requests = before ++ later) : ∃ s t, Reached limit before s t := by
  induction before using List.reverseRecOn generalizing later with
  | nil =>
    exact ⟨.withLimit limit, .empty, Twins.empty limit, rfl, rfl, rfl, rfl, rfl,
      fun d => ⟨nofun, nofun⟩⟩
  | append_singleton before r ih =>
    obtain ⟨s, t, reached⟩ := ih (r :: later) (by rw [place, List.append_assoc]; rfl)
    have ids := admissible.ids
    have entries := admissible.entries
    rw [place, List.countP_append] at ids
    rw [place, answers_append, List.countP_append] at entries
    refine (reached.step r (admissible.fit r ?_) (by omega) (by omega)).2
    rw [place]
    simp

/-! ## 5. Agreement -/

/-- How a store in memory and a store of tables agree, both empty at first. -/
structure Agreement (limit : Nat) (requests : List Request) : Prop where
  /-- Every request gets matching answers.  There is a record just where one
  has been created. -/
  answers : ∀ before r later, requests = before ++ r :: later →
    Matches (fun d => .created d ∈ (memory (.withLimit limit)).answers before) r
      (((memory (.withLimit limit)).after before).respond r).1
      (((tables .empty).after before).respond r).1
  /-- A request that fails changes no other answer: without it, both stores
  answer the others as they do with it. -/
  failures : ∀ store ∈ [memory (.withLimit limit), tables .empty],
    ∀ before r later, requests = before ++ r :: later →
      ((store.after before).respond r).1.isFailure = true →
      ∃ earlier others, earlier.length = before.length ∧
        store.answers (before ++ later) = earlier ++ others ∧
        store.answers requests = earlier ++ ((store.after before).respond r).1 :: others

/-- The two stores agree. -/
theorem stores_agree (limit : Nat) (requests : List Request)
    (admissible : Admissible limit requests) : Agreement limit requests where
  answers := by
    intro before r later place
    obtain ⟨s, t, reached⟩ := exists_reached admissible before (r :: later) place
    have ids := admissible.ids
    have entries := admissible.entries
    have cut : before ++ r :: later = (before ++ [r]) ++ later := by simp
    rw [place, cut, List.countP_append] at ids
    rw [place, cut, answers_append, List.countP_append] at entries
    rw [reached.inMemory, reached.inTables]
    exact (reached.step r (admissible.fit r (by simp [place])) (by omega) (by omega)).1
  failures := by
    intro store _ before r later place fails
    refine ⟨store.answers before, (store.after before).answers later, length_answers _ _,
      answers_append _ _ _, ?_⟩
    rw [place, answers_append, answers, respond_of_failure fails]

/-- A node with a location, an entry of it, and an entry of nobody. -/
def exampleRequests : List Request :=
  [.create ⟨"a", "", "", none, none, none⟩, .setLocation 1 ⟨⟨0x8000000000000000⟩, ⟨0⟩, "Oslo"⟩,
    .find 1, .append ⟨1, 5, some 6000, none, 2, 0, 10, "0xa", 1, none⟩,
    .append ⟨2, 5, none, none, 0, 0, 0, "", 0, none⟩, .latest, .historyOf 1]

theorem stores_agree_exampleRequests :
    Admissible 1 exampleRequests ∧ Agreement 1 exampleRequests := by
  have admissible : Admissible 1 exampleRequests := by
    refine ⟨?_, by decide, by decide⟩
    intro r member
    simp only [exampleRequests, List.mem_cons, List.not_mem_nil, or_false] at member
    rcases member with rfl | rfl | rfl | rfl | rfl | rfl | rfl
    · trivial
    · exact ⟨by decide, by decide⟩
    · trivial
    · simp [Request.Fits, Word.signedMax]
    · simp [Request.Fits, Word.signedMax]
    · trivial
    · trivial
  exact ⟨admissible, stores_agree 1 exampleRequests admissible⟩

end Store

end NodeWatch
