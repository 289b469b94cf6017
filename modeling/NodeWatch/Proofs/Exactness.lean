/-
NodeWatch.Proofs.Exactness — the history in tables is exact, or refused.

Two statements of the database language carry the history.  One puts a row in:
it names ten columns and gives ten values, which meet by position
(`HistoryRow.put`).  The other reads rows: it names ten columns, and the values
are taken by position, each one only if its type can hold it
(`HistoryRow.read`).  The row of an entry is what the first puts in
(`put_eq_map_ofEntry`), and the second reads that entry from it
(`read_of_ofEntry`).

A request does one of four things to tables (`Effect`): a record more, another
location, a row more, or nothing.  So the history of a node is all the entries of
it that were taken, in order and as they were (`historyOf_after`), and there is a
record just where one has been created (`isSome_find_after`).

Main statement: whatever has been asked of a store of tables, an entry is taken
just if its node has a record and its four counters fit a signed column; then it
is the last of its node, and nobody else sees it.  Otherwise the answer is an
error of the database, and every later answer is as if the entry had never been
there (`history_exact`).  The rows are numbered by their places, and there are no
more of them than requests, so a signed word has a number for each of them.
-/
import NodeWatch.Proofs.Agreement

namespace NodeWatch

/-! ## 1. Columns by position -/

/-- A column of the history table, next to its row number. -/
inductive HistoryColumn where
  | node
  | timestamp
  | avgBlockTime
  | avgPropagationTime
  | peers
  | queued
  | bestNumber
  | bestHash
  | blocks
  | uptime
  deriving DecidableEq, Repr

/-- What a column of a row holds. -/
inductive Cell where
  | empty
  | number (n : Int64)
  | text (s : String)
  deriving DecidableEq, Repr

namespace Cell

/-- An optional number in a cell. -/
def ofOption : Option Int64 → Cell
  | none => empty
  | some n => number n

def signed? : Cell → Option Int64
  | number n => some n
  | _ => none

def text? : Cell → Option String
  | text s => some s
  | _ => none

/-- An unsigned number is only read from a cell that is not negative. -/
def unsigned? : Cell → Option UInt64
  | number n => if 0 ≤ n then some (Column.toUnsigned n) else none
  | _ => none

/-- A short unsigned number is only read from a cell in its range. -/
def short? : Cell → Option UInt32
  | number n => if 0 ≤ n ∧ n.toInt < 2 ^ 32 then some n.toUInt64.toUInt32 else none
  | _ => none

/-- What may be empty, read by a reader of what is not. -/
def optional {α : Type} (read : Cell → Option α) : Cell → Option (Option α)
  | empty => some none
  | cell => (read cell).map some

end Cell

namespace HistoryRow

/-- The columns that are named to put a row in. -/
def inserted : List HistoryColumn :=
  [.node, .timestamp, .avgBlockTime, .avgPropagationTime, .peers, .queued, .bestNumber, .bestHash,
    .blocks, .uptime]

/-- The values that are given for them.  A number that is too large for a
column is no value. -/
def parameters (e : HistoryEntry) : List (Except StoreError Cell) :=
  [.ok (.number e.node), .ok (.number e.timestamp),
    (e.avgBlockTime.mapM Column.ofUnsigned).map .ofOption,
    (e.avgPropagationTime.mapM Column.ofUnsigned).map .ofOption,
    .ok (.number e.peers.toUInt64.toInt64), .ok (.number e.queued.toUInt64.toInt64),
    (Column.ofUnsigned e.bestNumber).map .number, .ok (.text e.bestHash),
    (Column.ofUnsigned e.blocks).map .number, .ok (.ofOption e.uptime)]

/-- The cells of the row that is put in: each column that is named gets the
value in its place, all others stay empty. -/
def put (e : HistoryEntry) : Except StoreError (HistoryColumn → Cell) :=
  ((parameters e).mapM id).map fun cells column =>
    ((inserted.zip cells).lookup column).getD .empty

/-- The columns that are named to read rows. -/
def selected : List HistoryColumn :=
  [.node, .timestamp, .avgBlockTime, .avgPropagationTime, .peers, .queued, .bestNumber, .bestHash,
    .blocks, .uptime]

/-- The entry in the cells that are read, taken by position. -/
def read (cells : List Cell) : Option HistoryEntry := do
  let node ← cells[0]?.bind Cell.signed?
  let timestamp ← cells[1]?.bind Cell.signed?
  let avgBlockTime ← cells[2]?.bind (Cell.optional Cell.unsigned?)
  let avgPropagationTime ← cells[3]?.bind (Cell.optional Cell.unsigned?)
  let peers ← cells[4]?.bind Cell.short?
  let queued ← cells[5]?.bind Cell.short?
  let bestNumber ← cells[6]?.bind Cell.unsigned?
  let bestHash ← cells[7]?.bind Cell.text?
  let blocks ← cells[8]?.bind Cell.unsigned?
  let uptime ← cells[9]?.bind (Cell.optional Cell.signed?)
  return { node, timestamp, avgBlockTime, avgPropagationTime, peers, queued, bestNumber, bestHash,
           blocks, uptime }

/-- A column of a row by its name. -/
def cell (row : HistoryRow) : HistoryColumn → Cell
  | .node => .number row.node
  | .timestamp => .number row.timestamp
  | .avgBlockTime => .ofOption row.avgBlockTime
  | .avgPropagationTime => .ofOption row.avgPropagationTime
  | .peers => .number row.peers
  | .queued => .number row.queued
  | .bestNumber => .number row.bestNumber
  | .bestHash => .text row.bestHash
  | .blocks => .number row.blocks
  | .uptime => .ofOption row.uptime

end HistoryRow

/-! ### Cells that are read back -/

theorem Column.le_of_ofUnsigned {n : UInt64} {column : Int64}
    (made : ofUnsigned n = .ok column) : n ≤ Word.signedMax := by
  unfold ofUnsigned at made
  split at made
  · assumption
  · cases made

theorem Column.le_of_mapM_ofUnsigned {n : Option UInt64} {column : Option Int64}
    (made : n.mapM ofUnsigned = .ok column) : ∀ m ∈ n, m ≤ Word.signedMax := by
  rintro m rfl
  obtain ⟨c, one, -⟩ := exists_of_mapM_ofUnsigned made
  exact le_of_ofUnsigned one

theorem Column.toInt_of_ofUnsigned {n : UInt64} {column : Int64}
    (made : ofUnsigned n = .ok column) : column.toInt = n.toNat := by
  have small := le_of_ofUnsigned made
  rw [ofUnsigned_of_le small] at made
  cases made
  exact Word.toInt_toInt64 (Nat.lt_succ_of_le (UInt64.le_iff_toNat_le.1 small))

namespace Cell

@[simp]
theorem signed?_number (n : Int64) : (number n).signed? = some n := rfl

@[simp]
theorem text?_text (s : String) : (text s).text? = some s := rfl

/-- What has been put into a cell is read from it: no column is negative, so
none is refused. -/
theorem unsigned?_of_ofUnsigned {n : UInt64} {column : Int64}
    (made : Column.ofUnsigned n = .ok column) : (number column).unsigned? = some n := by
  have value := Column.toInt_of_ofUnsigned made
  have positive : 0 ≤ column := by
    rw [Int64.le_iff_toInt_le, value]
    exact Int.natCast_nonneg _
  rw [unsigned?, if_pos positive, Column.toUnsigned_of_ofUnsigned made]

theorem optional_unsigned?_of_mapM {n : Option UInt64} {column : Option Int64}
    (made : n.mapM Column.ofUnsigned = .ok column) :
    optional unsigned? (ofOption column) = some n := by
  cases n with
  | none =>
    cases made
    rfl
  | some n =>
    obtain ⟨c, one, rfl⟩ := Column.exists_of_mapM_ofUnsigned made
    show (unsigned? (number c)).map some = some (some n)
    rw [unsigned?_of_ofUnsigned one, Option.map_some]

@[simp]
theorem optional_signed?_ofOption (n : Option Int64) :
    optional signed? (ofOption n) = some n := by
  cases n <;> rfl

@[simp]
theorem short?_number (n : UInt32) : (number n.toUInt64.toInt64).short? = some n := by
  have small : n.toNat < 2 ^ 32 := n.toNat_lt
  have value : n.toUInt64.toInt64.toInt = n.toNat := by
    rw [Word.toInt_toInt64, UInt32.toNat_toUInt64]
    rw [UInt32.toNat_toUInt64]
    omega
  have range : 0 ≤ n.toUInt64.toInt64 ∧ n.toUInt64.toInt64.toInt < 2 ^ 32 := by
    rw [Int64.le_iff_toInt_le, value]
    exact ⟨Int.natCast_nonneg _, by omega⟩
  rw [short?, if_pos range]
  simp

end Cell

namespace HistoryRow

/-- By position, the row of an entry is put in, or nothing is. -/
theorem put_eq_map_ofEntry (e : HistoryEntry) : put e = (ofEntry e).map cell := by
  unfold put parameters ofEntry
  cases e.avgBlockTime.mapM Column.ofUnsigned with
  | error cause => rfl
  | ok blockTime =>
    cases e.avgPropagationTime.mapM Column.ofUnsigned with
    | error cause => rfl
    | ok propagationTime =>
      cases Column.ofUnsigned e.bestNumber with
      | error cause => rfl
      | ok number =>
        cases Column.ofUnsigned e.blocks with
        | error cause => rfl
        | ok blocks =>
          refine congrArg Except.ok (funext fun column => ?_)
          cases column <;> rfl

/-- By position, an entry is read from its row as it was. -/
theorem read_of_ofEntry {e : HistoryEntry} {row : HistoryRow} (made : ofEntry e = .ok row) :
    read (selected.map row.cell) = some e := by
  simp only [ofEntry, bind_eq_ok] at made
  obtain ⟨blockTime, h₁, propagationTime, h₂, number, h₃, blocks, h₄, made⟩ := made
  cases made
  simp [read, selected, cell, Cell.optional_unsigned?_of_mapM h₁,
    Cell.optional_unsigned?_of_mapM h₂, Cell.unsigned?_of_ofUnsigned h₃,
    Cell.unsigned?_of_ofUnsigned h₄]

end HistoryRow

/-! ## 2. One entry -/

/-- An entry has a row just if its counters fit. -/
theorem HistoryRow.exists_ofEntry_iff {e : HistoryEntry} :
    (∃ row, ofEntry e = .ok row) ↔ (Store.Request.append e).Fits := by
  constructor
  · rintro ⟨row, made⟩
    simp only [ofEntry, bind_eq_ok] at made
    obtain ⟨_, blockTime, _, propagationTime, _, number, _, blocks, -⟩ := made
    exact ⟨Column.le_of_mapM_ofUnsigned blockTime, Column.le_of_mapM_ofUnsigned propagationTime,
      Column.le_of_ofUnsigned number, Column.le_of_ofUnsigned blocks⟩
  · exact exists_ofEntry

namespace TableStore

variable {s s' : TableStore} {e : HistoryEntry}

theorem append_eq_ok_iff :
    s.append e = .ok s' ↔ ∃ row, HistoryRow.ofEntry e = .ok row ∧
      s.nodes.contains e.node = true ∧ s' = { s with history := s.history.push row } := by
  rw [append, bind_eq_ok]
  refine exists_congr fun row => and_congr_right fun made => ?_
  rw [HistoryRow.node_of_ofEntry made]
  split
  · next known => simp [known, pure, Except.pure, eq_comm]
  · next unknown => simp [unknown]

/-- An entry can only be refused by the database. -/
theorem exists_reason_of_append {cause : StoreError} (refused : s.append e = .error cause) :
    ∃ reason, cause = .database reason := by
  rw [append, bind_eq_error] at refused
  rcases refused with refused | ⟨row, -, refused⟩
  · exact ⟨_, HistoryRow.error_of_ofEntry refused⟩
  · split at refused <;> cases refused
    exact ⟨_, rfl⟩

theorem exists_kept_of_setLocation {id : DurableId} {location : Location}
    (placed : s.setLocation id location = .ok s') :
    ∃ kept, s' = { s with locations := s.locations.insert id kept } := by
  unfold setLocation at placed
  split at placed
  · split at placed <;> cases placed
    exact ⟨_, rfl⟩
  · cases placed

theorem historyOf_push {row : HistoryRow} (made : HistoryRow.ofEntry e = .ok row)
    (d : DurableId) :
    historyOf { s with history := s.history.push row } d =
      s.historyOf d ++ if e.node = d then [e] else [] := by
  have node := HistoryRow.node_of_ofEntry made
  by_cases same : e.node = d <;>
    simp [historyOf, node, same, HistoryRow.toEntry_of_ofEntry made]

theorem isSome_find (s : TableStore) (d : DurableId) :
    (s.find d).isSome = s.nodes.contains d := by
  simp [find, Table.contains]

/-- Whether every row of the history is that of an entry. -/
def Whole (s : TableStore) : Prop :=
  ∀ row ∈ s.history.toList, ∃ e, HistoryRow.ofEntry e = .ok row

theorem whole_empty : Whole .empty :=
  List.forall_mem_nil _

end TableStore

/-! ## 3. One request -/

namespace Store

/-- What a request to tables is answered, and what it makes of them. -/
inductive Effect (s : TableStore) : Request → Answer → TableStore → Prop
  | created (profile : Profile) (id : DurableId) :
      Effect s (.create profile) (.created id)
        { s with nodes := s.nodes.insert id profile, sequence := id }
  | placed (id : DurableId) (location kept : Location) :
      Effect s (.setLocation id location) .placed
        { s with locations := s.locations.insert id kept }
  | appended (e : HistoryEntry) (row : HistoryRow) (made : HistoryRow.ofEntry e = .ok row) :
      Effect s (.append e) .appended { s with history := s.history.push row }
  /-- Requests that only read, and those that fail. -/
  | unchanged (r : Request) (a : Answer) (nobody : ∀ id, a ≠ .created id)
      (nothing : a ≠ .appended) : Effect s r a s

theorem exists_effect (s : TableStore) (r : Request) :
    ∃ a s', (tables s).respond r = (a, tables s') ∧ Effect s r a s' := by
  cases r with
  | create profile =>
    simp only [respond, create, TableStore.create]
    cases Word.add s.sequence 1 with
    | error cause => exact ⟨_, s, rfl, .unchanged _ _ (by simp) (by simp)⟩
    | ok id => exact ⟨_, _, rfl, .created profile id⟩
  | setLocation id location =>
    simp only [respond, setLocation]
    cases placed : s.setLocation id location with
    | error cause => exact ⟨_, s, rfl, .unchanged _ _ (by simp) (by simp)⟩
    | ok s' =>
      obtain ⟨kept, rfl⟩ := TableStore.exists_kept_of_setLocation placed
      exact ⟨_, _, rfl, .placed id location kept⟩
  | append e =>
    simp only [respond, append]
    cases taken : s.append e with
    | error cause => exact ⟨_, s, rfl, .unchanged _ _ (by simp) (by simp)⟩
    | ok s' =>
      obtain ⟨row, made, -, rfl⟩ := TableStore.append_eq_ok_iff.1 taken
      exact ⟨_, _, rfl, .appended e row made⟩
  | find id => exact ⟨_, s, rfl, .unchanged _ _ (by simp) (by simp)⟩
  | latest => exact ⟨_, s, rfl, .unchanged _ _ (by simp) (by simp)⟩
  | historyOf id => exact ⟨_, s, rfl, .unchanged _ _ (by simp) (by simp)⟩

/-- What a request and its answer add to the history of a node: an entry of it
that has been taken. -/
def added (d : DurableId) : Request × Answer → List HistoryEntry
  | (.append e, .appended) => if e.node = d then [e] else []
  | _ => []

theorem added_of_not_appended {d : DurableId} {r : Request} {a : Answer} (other : a ≠ .appended) :
    added d (r, a) = [] := by
  unfold added
  split
  · next same => exact absurd (congrArg Prod.snd same) other
  · rfl

namespace Effect

variable {s s' : TableStore} {r : Request} {a : Answer}

theorem historyOf (effect : Effect s r a s') (d : DurableId) :
    s'.historyOf d = s.historyOf d ++ added d (r, a) := by
  cases effect with
  | created profile id => exact (List.append_nil _).symm
  | placed id location kept => exact (List.append_nil _).symm
  | appended e row made => exact TableStore.historyOf_push made d
  | unchanged r a nobody nothing => rw [added_of_not_appended nothing, List.append_nil]

theorem isSome_find (effect : Effect s r a s') (d : DurableId) :
    (s'.find d).isSome = true ↔ (s.find d).isSome = true ∨ a = .created d := by
  cases effect with
  | created profile id =>
    rw [TableStore.isSome_find, TableStore.isSome_find, Table.contains, Table.get?_insert]
    by_cases same : id = d <;> simp [Table.contains, same]
  | placed id location kept => simp [TableStore.isSome_find]
  | appended e row made => simp [TableStore.isSome_find]
  | unchanged r a nobody nothing => simp [nobody d]

theorem whole (effect : Effect s r a s') (whole : s.Whole) : s'.Whole := by
  cases effect with
  | created profile id => exact whole
  | placed id location kept => exact whole
  | appended e row made =>
    intro row' member
    rw [Array.toList_push, List.mem_append] at member
    rcases member with old | new
    · exact whole row' old
    · rw [List.mem_singleton.1 new]
      exact ⟨e, made⟩
  | unchanged r a nobody nothing => exact whole

theorem size_le (effect : Effect s r a s') : s'.history.size ≤ s.history.size + 1 := by
  cases effect with
  | created profile id => exact Nat.le_succ _
  | placed id location kept => exact Nat.le_succ _
  | appended e row made => exact Nat.le_of_eq (Array.size_push row)
  | unchanged r a nobody nothing => exact Nat.le_succ _

end Effect

/-! ## 4. All requests -/

/-- A run over tables ends with tables, in which every row is that of an entry,
and which have at most one row more for each request. -/
theorem exists_after_tables {s : TableStore} (whole : s.Whole) (requests : List Request) :
    ∃ s', (tables s).after requests = tables s' ∧ s'.Whole ∧
      s'.history.size ≤ s.history.size + requests.length := by
  induction requests generalizing s with
  | nil => exact ⟨s, rfl, whole, Nat.le_refl _⟩
  | cons r rest ih =>
    obtain ⟨a, s', answer, effect⟩ := exists_effect s r
    obtain ⟨last, ends, whole', size⟩ := ih (effect.whole whole)
    have more := effect.size_le
    refine ⟨last, ?_, whole', ?_⟩
    · rw [← ends, after, List.foldl_cons, answer]
      rfl
    · rw [List.length_cons]
      omega

/-- The history of a node is what was there before and all its entries that have
been taken, in order and as they were. -/
theorem historyOf_after (s : TableStore) (requests : List Request) (d : DurableId) :
    ((tables s).after requests).historyOf d =
      s.historyOf d ++ (requests.zip ((tables s).answers requests)).flatMap (added d) := by
  induction requests generalizing s with
  | nil => exact (List.append_nil _).symm
  | cons r rest ih =>
    obtain ⟨a, s', answer, effect⟩ := exists_effect s r
    rw [after, List.foldl_cons, answers, answer]
    show ((tables s').after rest).historyOf d = _
    rw [ih s', effect.historyOf d, List.append_assoc]
    rfl

/-- There is a record just where one was before, or has been created. -/
theorem isSome_find_after (s : TableStore) (requests : List Request) (d : DurableId) :
    (((tables s).after requests).find d).isSome = true ↔
      (s.find d).isSome = true ∨ .created d ∈ (tables s).answers requests := by
  induction requests generalizing s with
  | nil => simp [after, answers, find]
  | cons r rest ih =>
    obtain ⟨a, s', answer, effect⟩ := exists_effect s r
    rw [after, List.foldl_cons, answers, answer]
    show (((tables s').after rest).find d).isSome = true ↔ _
    rw [ih s', effect.isSome_find d, List.mem_cons, or_assoc, eq_comm (a := a)]

/-! ### Two tables that differ in the history of one node -/

/-- Whether two stores of tables hold the same, the history of a node apart. -/
structure SameBut (d : DurableId) (s t : TableStore) : Prop where
  nodes : t.nodes = s.nodes
  locations : t.locations = s.locations
  sequence : t.sequence = s.sequence
  history : ∀ d', d' ≠ d → t.historyOf d' = s.historyOf d'

namespace SameBut

variable {d : DurableId} {s t : TableStore}

theorem push (same : SameBut d s t) {e : HistoryEntry} {row : HistoryRow}
    (made : HistoryRow.ofEntry e = .ok row) :
    SameBut d { s with history := s.history.push row }
      { t with history := t.history.push row } where
  nodes := same.nodes
  locations := same.locations
  sequence := same.sequence
  history := by
    intro d' other
    rw [TableStore.historyOf_push made, TableStore.historyOf_push made, same.history d' other]

/-- Two such stores give the same answer to any request but for that history. -/
theorem respond (same : SameBut d s t) {r : Request} (other : r ≠ .historyOf d) :
    ∃ a s' t', (tables s).respond r = (a, tables s') ∧ (tables t).respond r = (a, tables t') ∧
      SameBut d s' t' := by
  have kept := same
  obtain ⟨nodes, locations, sequence, history⟩ := same
  cases r with
  | create profile =>
    simp only [Store.respond, create, TableStore.create, sequence, nodes]
    cases Word.add s.sequence 1 with
    | error cause => exact ⟨_, s, t, rfl, rfl, kept⟩
    | ok id => exact ⟨_, _, _, rfl, rfl, ⟨rfl, locations, rfl, history⟩⟩
  | find id =>
    refine ⟨_, s, t, rfl, ?_, kept⟩
    simp [Store.respond, Store.find, TableStore.find, nodes, locations]
  | setLocation id location =>
    simp only [Store.respond, setLocation, TableStore.setLocation, nodes, locations]
    cases s.nodes.contains id with
    | false => exact ⟨_, s, t, rfl, rfl, kept⟩
    | true =>
      cases Column.ofDouble location.lat with
      | none => exact ⟨_, s, t, rfl, rfl, kept⟩
      | some lat =>
        cases Column.ofDouble location.lng with
        | none => exact ⟨_, s, t, rfl, rfl, kept⟩
        | some lng => exact ⟨_, _, _, rfl, rfl, ⟨rfl, rfl, sequence, history⟩⟩
  | append e =>
    simp only [Store.respond, append, TableStore.append, nodes]
    cases made : HistoryRow.ofEntry e with
    | error cause => exact ⟨_, s, t, rfl, rfl, kept⟩
    | ok row =>
      simp only [bind, Except.bind]
      cases s.nodes.contains row.node with
      | false => exact ⟨_, s, t, rfl, rfl, kept⟩
      | true => exact ⟨_, _, _, rfl, rfl, { kept.push made with nodes := rfl }⟩
  | latest =>
    refine ⟨_, s, t, rfl, ?_, kept⟩
    simp [Store.respond, Store.latest, TableStore.latest, nodes]
  | historyOf id =>
    refine ⟨_, s, t, rfl, ?_, kept⟩
    have elsewhere : id ≠ d := fun same => other (congrArg Request.historyOf same)
    simp [Store.respond, Store.historyOf, history id elsewhere]

theorem answers (same : SameBut d s t) (requests : List Request)
    (others : ∀ r ∈ requests, r ≠ .historyOf d) :
    (tables t).answers requests = (tables s).answers requests := by
  induction requests generalizing s t with
  | nil => rfl
  | cons r rest ih =>
    obtain ⟨a, s', t', inFirst, inSecond, same'⟩ := same.respond (others r List.mem_cons_self)
    have later := ih same' fun r' member => others r' (List.mem_cons_of_mem r member)
    rw [Store.answers, Store.answers, inFirst, inSecond, later]

end SameBut

/-! ## 5. Exact, or refused -/

/-- Tables, empty at first, after some requests. -/
def tablesAfter (before : List Request) : Store :=
  (tables .empty).after before

theorem tablesAfter_concat (before : List Request) (r : Request) :
    tablesAfter (before ++ [r]) = ((tablesAfter before).respond r).2 := by
  rw [tablesAfter, after_append]
  rfl

/-- What becomes of an entry that is put to tables after some requests. -/
structure ExactOrRefused (before : List Request) (e : HistoryEntry) : Prop where
  /-- There is a record just where one has been created. -/
  records : ∀ d, ((tablesAfter before).find d).isSome = true ↔
    .created d ∈ (tables .empty).answers before
  /-- An entry is taken just if its node has a record and its counters fit. -/
  taken : ((tablesAfter before).respond (.append e)).1 = .appended ↔
    ((tablesAfter before).find e.node).isSome = true ∧ (Request.append e).Fits
  /-- What is put in by position is read by position as it was. -/
  columns : ((tablesAfter before).respond (.append e)).1 = .appended →
    ∃ cells, HistoryRow.put e = .ok cells ∧
      HistoryRow.read (HistoryRow.selected.map cells) = some e
  /-- So is every row of the history. -/
  rows : ∀ s, tablesAfter before = tables s → ∀ row ∈ s.history.toList,
    HistoryRow.read (HistoryRow.selected.map row.cell) = some row.toEntry
  /-- There are no more rows than requests, so with fewer than `2 ^ 63` requests
  the row numbers of the history do not run out. -/
  numbers : ∀ s, tablesAfter before = tables s → s.history.size ≤ before.length
  /-- An entry that is taken is the last of its node, as it was. -/
  last : ((tablesAfter before).respond (.append e)).1 = .appended →
    (tablesAfter (before ++ [.append e])).historyOf e.node =
      (tablesAfter before).historyOf e.node ++ [e]
  /-- It changes no record, no history of others, and no later answer but that
  history. -/
  others : ((tablesAfter before).respond (.append e)).1 = .appended →
    (∀ d, (tablesAfter (before ++ [.append e])).find d = (tablesAfter before).find d) ∧
    (∀ d, d ≠ e.node → (tablesAfter (before ++ [.append e])).historyOf d =
      (tablesAfter before).historyOf d) ∧
    ∀ later, (∀ r ∈ later, r ≠ .historyOf e.node) →
      (tablesAfter (before ++ [.append e])).answers later = (tablesAfter before).answers later
  /-- An entry that is not taken is refused by the database, and every later
  answer is as if it had not been put. -/
  refused : ((tablesAfter before).respond (.append e)).1 ≠ .appended →
    (∃ reason, ((tablesAfter before).respond (.append e)).1 = .failed (.database reason)) ∧
    ∀ later, (tablesAfter (before ++ [.append e])).answers later =
      (tablesAfter before).answers later
  /-- All in all, the history of a node is its entries that have been taken, in
  order and as they were. -/
  history : ∀ d, (tablesAfter before).historyOf d =
    (before.zip ((tables .empty).answers before)).flatMap (added d)

section

variable {s : TableStore} {e : HistoryEntry}

theorem taken_iff : ((tables s).respond (.append e)).1 = .appended ↔
    ∃ row, HistoryRow.ofEntry e = .ok row ∧ s.nodes.contains e.node = true := by
  have outcome : ((tables s).respond (.append e)).1 = .appended ↔ ∃ s', s.append e = .ok s' := by
    simp only [respond, append]
    cases s.append e <;> simp [Except.map]
  rw [outcome]
  constructor
  · rintro ⟨s', taken⟩
    obtain ⟨row, made, known, -⟩ := TableStore.append_eq_ok_iff.1 taken
    exact ⟨row, made, known⟩
  · rintro ⟨row, made, known⟩
    exact ⟨_, TableStore.append_eq_ok_iff.2 ⟨row, made, known, rfl⟩⟩

/-- An entry that is taken is one row more. -/
theorem exists_row_of_taken (taken : ((tables s).respond (.append e)).1 = .appended) :
    ∃ row, HistoryRow.ofEntry e = .ok row ∧
      ((tables s).respond (.append e)).2 = tables { s with history := s.history.push row } := by
  obtain ⟨row, made, known⟩ := taken_iff.1 taken
  have appended := TableStore.append_eq_ok_iff.2 ⟨row, made, known, rfl⟩
  exact ⟨row, made, by simp [respond, append, appended, Except.map]⟩

/-- An entry that is not taken is refused by the database. -/
theorem exists_reason_of_refused (refused : ((tables s).respond (.append e)).1 ≠ .appended) :
    ∃ reason, ((tables s).respond (.append e)).1 = .failed (.database reason) := by
  simp only [respond, append] at refused ⊢
  cases outcome : s.append e with
  | ok s' => simp [outcome, Except.map] at refused
  | error cause =>
    obtain ⟨reason, rfl⟩ := TableStore.exists_reason_of_append outcome
    exact ⟨reason, rfl⟩

end

/-- The history in tables is exact, or refused. -/
theorem history_exact (before : List Request) (e : HistoryEntry) : ExactOrRefused before e := by
  have emptied (d : DurableId) : (TableStore.empty.find d).isSome = false := rfl
  have records (d : DurableId) := isSome_find_after .empty before d
  have history (d : DurableId) := historyOf_after .empty before d
  obtain ⟨s, reached, whole, size⟩ := exists_after_tables TableStore.whole_empty before
  have reached : tablesAfter before = tables s := reached
  have none : TableStore.empty.history.size = 0 := rfl
  refine ⟨?_, ?_, ?_, ?_, ?_, ?_, ?_, ?_, history⟩
  · intro d
    simpa [tablesAfter, emptied] using records d
  · rw [reached, taken_iff, ← HistoryRow.exists_ofEntry_iff, find, TableStore.isSome_find]
    exact exists_and_right.trans and_comm
  · intro taken
    rw [reached] at taken
    obtain ⟨row, made, -⟩ := exists_row_of_taken taken
    exact ⟨row.cell, by rw [HistoryRow.put_eq_map_ofEntry, made, Except.map],
      HistoryRow.read_of_ofEntry made⟩
  · intro s' same row member
    rw [reached, tables.injEq] at same
    subst same
    obtain ⟨e', made⟩ := whole row member
    rw [HistoryRow.read_of_ofEntry made, HistoryRow.toEntry_of_ofEntry made]
  · intro s' same
    rw [reached, tables.injEq] at same
    subst same
    omega
  · intro taken
    rw [tablesAfter_concat]
    rw [reached] at taken ⊢
    obtain ⟨row, made, after⟩ := exists_row_of_taken taken
    rw [after]
    show TableStore.historyOf _ _ = s.historyOf e.node ++ [e]
    rw [TableStore.historyOf_push made, if_pos rfl]
  · intro taken
    rw [tablesAfter_concat]
    rw [reached] at taken ⊢
    obtain ⟨row, made, after⟩ := exists_row_of_taken taken
    have same : SameBut e.node s { s with history := s.history.push row } := by
      refine ⟨rfl, rfl, rfl, fun d other => ?_⟩
      rw [TableStore.historyOf_push made, if_neg (Ne.symm other), List.append_nil]
    rw [after]
    exact ⟨fun d => rfl, same.history, same.answers⟩
  · intro refused
    rw [tablesAfter_concat]
    rw [reached] at refused ⊢
    obtain ⟨reason, answer⟩ := exists_reason_of_refused refused
    refine ⟨⟨reason, answer⟩, fun later => ?_⟩
    rw [respond_of_failure (by rw [answer]; rfl)]

end Store

end NodeWatch
