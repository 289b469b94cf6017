/-
NodeWatch.Table — finite maps as lists of pairs with distinct keys.

A table keeps its pairs in the order in which their keys first came in;
putting a value under a key that is already there replaces the value in
place.  That no key stands twice is part of the type, so a table has as
many keys as pairs.  What a table holds is read through `get?`, and the
lemmas say what each operation does to it.
-/

namespace NodeWatch

/-- A finite map: pairs of a key and a value, no key twice. -/
structure Table (κ ν : Type) where
  /-- The pairs, in the order in which their keys first came in. -/
  entries : List (κ × ν)
  distinct : (entries.map Prod.fst).Nodup
  deriving DecidableEq

namespace Table

variable {κ ν μ : Type} [DecidableEq κ]

/-! ## 1. On lists of pairs -/

/-- The value beside the first pair with key `k`. -/
def lookup (k : κ) : List (κ × ν) → Option ν
  | [] => none
  | (k', v) :: rest => if k' = k then some v else lookup k rest

/-- The pairs with `v` under `k`: in place of the old value, else last. -/
def put (k : κ) (v : ν) : List (κ × ν) → List (κ × ν)
  | [] => [(k, v)]
  | (k', v') :: rest => if k' = k then (k, v) :: rest else (k', v') :: put k v rest

theorem keys_put (k : κ) (v : ν) (l : List (κ × ν)) :
    (put k v l).map Prod.fst =
      if k ∈ l.map Prod.fst then l.map Prod.fst else l.map Prod.fst ++ [k] := by
  induction l with
  | nil => simp [put]
  | cons pair rest ih =>
    obtain ⟨k', v'⟩ := pair
    by_cases h : k' = k
    · subst h; simp [put]
    · have h' : ¬ k = k' := fun e => h e.symm
      simp only [put, if_neg h, List.map_cons, ih, List.mem_cons, h', false_or]
      split <;> simp

theorem nodup_keys_put (k : κ) (v : ν) {l : List (κ × ν)} (h : (l.map Prod.fst).Nodup) :
    ((put k v l).map Prod.fst).Nodup := by
  rw [keys_put]
  split
  · exact h
  · next absent =>
    refine List.nodup_append.2 ⟨h, by simp, fun a ha b hb => ?_⟩
    rintro rfl
    exact absent (List.mem_singleton.1 hb ▸ ha)

theorem lookup_put (k k' : κ) (v : ν) (l : List (κ × ν)) :
    lookup k' (put k v l) = if k = k' then some v else lookup k' l := by
  induction l with
  | nil => simp [put, lookup]
  | cons pair rest ih =>
    obtain ⟨a, b⟩ := pair
    by_cases h : a = k
    · subst h; by_cases h' : a = k' <;> simp [put, lookup, h']
    · by_cases h' : a = k'
      · subst h'
        have : ¬ k = a := fun e => h e.symm
        simp [put, lookup, h, this]
      · simp [put, lookup, h, h', ih]

theorem lookup_eq_none_iff {k : κ} {l : List (κ × ν)} :
    lookup k l = none ↔ k ∉ l.map Prod.fst := by
  induction l with
  | nil => simp [lookup]
  | cons pair rest ih =>
    obtain ⟨a, b⟩ := pair
    by_cases h : a = k
    · subst h; simp [lookup]
    · have h' : ¬ k = a := fun e => h e.symm
      simp [lookup, h, h', ih]

/-- A pair of a list without repeated keys is what its key finds. -/
theorem mem_iff_lookup {k : κ} {v : ν} {l : List (κ × ν)} (h : (l.map Prod.fst).Nodup) :
    (k, v) ∈ l ↔ lookup k l = some v := by
  induction l with
  | nil => simp [lookup]
  | cons pair rest ih =>
    obtain ⟨a, b⟩ := pair
    simp only [List.map_cons, List.nodup_cons] at h
    by_cases e : a = k
    · subst e
      have absent : (a, v) ∉ rest := fun m => h.1 (List.mem_map.2 ⟨(a, v), m, rfl⟩)
      simp [lookup, absent, eq_comm]
    · have e' : ¬ k = a := fun x => e x.symm
      simp [lookup, e, e', ih h.2]

theorem lookup_filter_ne (k k' : κ) (l : List (κ × ν)) :
    lookup k' (l.filter fun pair => !decide (pair.1 = k)) =
      if k = k' then none else lookup k' l := by
  induction l with
  | nil => simp [lookup]
  | cons pair rest ih =>
    obtain ⟨a, b⟩ := pair
    by_cases h : a = k
    · subst h
      by_cases h' : a = k'
      · subst h'; simp [ih]
      · simp [lookup, h', ih]
    · by_cases h' : a = k'
      · subst h'
        have : ¬ k = a := fun e => h e.symm
        simp [lookup, h, this]
      · simp [lookup, h, h', ih]

theorem lookup_map_value (f : κ → ν → μ) (k : κ) (l : List (κ × ν)) :
    lookup k (l.map fun pair => (pair.1, f pair.1 pair.2)) = (lookup k l).map (f k) := by
  induction l with
  | nil => rfl
  | cons pair rest ih =>
    obtain ⟨a, b⟩ := pair
    by_cases h : a = k
    · subst h; simp [lookup]
    · simp [lookup, h, ih]

theorem filter_put (k j : κ) (v : ν) (l : List (κ × ν)) :
    ((put k v l).filter fun pair => !decide (pair.1 = j)) =
      if k = j then l.filter fun pair => !decide (pair.1 = j)
      else put k v (l.filter fun pair => !decide (pair.1 = j)) := by
  induction l with
  | nil => by_cases h : k = j <;> simp [put, h]
  | cons pair rest ih =>
    obtain ⟨a, b⟩ := pair
    by_cases h : a = k
    · subst h
      by_cases h' : a = j <;> simp [put, h']
    · by_cases h' : a = j
      · subst h'
        have other : ¬ k = a := fun e => h e.symm
        rw [if_neg other] at ih
        simp [put, h, other, ih]
      · by_cases h'' : k = j
        · subst h''
          simpa [put, h] using ih
        · simp [put, h, h', h'', ih]

/-! ## 2. Tables -/

/-- The table without pairs. -/
def empty : Table κ ν := ⟨[], List.nodup_nil⟩

instance : EmptyCollection (Table κ ν) := ⟨empty⟩

instance : Inhabited (Table κ ν) := ⟨empty⟩

/-- The value under `k`. -/
def get? (t : Table κ ν) (k : κ) : Option ν :=
  lookup k t.entries

/-- Whether there is a value under `k`. -/
def contains (t : Table κ ν) (k : κ) : Bool :=
  (t.get? k).isSome

/-- The number of keys. -/
def size (t : Table κ ν) : Nat :=
  t.entries.length

/-- The table with `v` under `k`. -/
def insert (t : Table κ ν) (k : κ) (v : ν) : Table κ ν :=
  ⟨put k v t.entries, nodup_keys_put k v t.distinct⟩

/-- The table without the key `k`. -/
def erase (t : Table κ ν) (k : κ) : Table κ ν :=
  ⟨t.entries.filter fun pair => !decide (pair.1 = k),
    (List.filter_sublist.map Prod.fst).nodup t.distinct⟩

/-- The table with every value replaced, the keys left alone. -/
def mapValues (t : Table κ ν) (f : κ → ν → μ) : Table κ μ :=
  ⟨t.entries.map fun pair => (pair.1, f pair.1 pair.2), by
    simpa [List.map_map, Function.comp_def] using t.distinct⟩

@[simp] theorem get?_empty (k : κ) : (empty : Table κ ν).get? k = none := rfl

theorem get?_insert (t : Table κ ν) (k k' : κ) (v : ν) :
    (t.insert k v).get? k' = if k = k' then some v else t.get? k' :=
  lookup_put k k' v t.entries

@[simp] theorem get?_insert_self (t : Table κ ν) (k : κ) (v : ν) :
    (t.insert k v).get? k = some v := by
  simp [get?_insert]

theorem get?_insert_of_ne (t : Table κ ν) {k k' : κ} (v : ν) (h : k ≠ k') :
    (t.insert k v).get? k' = t.get? k' := by
  simp [get?_insert, h]

theorem get?_erase (t : Table κ ν) (k k' : κ) :
    (t.erase k).get? k' = if k = k' then none else t.get? k' :=
  lookup_filter_ne k k' t.entries

@[simp] theorem get?_erase_self (t : Table κ ν) (k : κ) : (t.erase k).get? k = none := by
  simp [get?_erase]

theorem get?_erase_of_ne (t : Table κ ν) {k k' : κ} (h : k ≠ k') :
    (t.erase k).get? k' = t.get? k' := by
  simp [get?_erase, h]

/-- Of what is put in, erasing leaves what stands under other keys. -/
theorem erase_insert (t : Table κ ν) (k j : κ) (v : ν) :
    (t.insert k v).erase j = if k = j then t.erase j else (t.erase j).insert k v := by
  have entries := filter_put k j v t.entries
  by_cases h : k = j
  · rw [if_pos h] at entries ⊢
    simp only [insert, erase, entries]
  · rw [if_neg h] at entries ⊢
    simp only [insert, erase, entries]

theorem erase_erase (t : Table κ ν) (k : κ) : (t.erase k).erase k = t.erase k := by
  simp [erase]

theorem erase_comm (t : Table κ ν) (k j : κ) : (t.erase k).erase j = (t.erase j).erase k := by
  simp only [erase, List.filter_filter, Bool.and_comm]

theorem get?_mapValues (t : Table κ ν) (f : κ → ν → μ) (k : κ) :
    (t.mapValues f).get? k = (t.get? k).map (f k) :=
  lookup_map_value f k t.entries

theorem mem_entries_iff (t : Table κ ν) {k : κ} {v : ν} :
    (k, v) ∈ t.entries ↔ t.get? k = some v :=
  mem_iff_lookup t.distinct

theorem size_insert (t : Table κ ν) (k : κ) (v : ν) :
    (t.insert k v).size = if t.contains k then t.size else t.size + 1 := by
  have keys := congrArg List.length (keys_put k v t.entries)
  rw [List.length_map] at keys
  have found : t.contains k = true ↔ k ∈ t.entries.map Prod.fst := by
    rw [contains, Option.isSome_iff_ne_none, get?, ne_eq, lookup_eq_none_iff, Decidable.not_not]
  simp only [size, insert, keys, found]
  split <;> simp

end Table

end NodeWatch
