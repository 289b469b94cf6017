/-
NodeWatch.Proofs.Grammar — the payloads of the feed, and what they say.

The grammar of a payload is given here as a relation between JSON values and
what they say, without a word on how they are read.  A positional payload is an
array that begins with the elements that it should have, where an element that
is not there reads as null (`Positional`).

Main statement: whatever the code and the payload are, an entry decodes to a
message just if the grammar has it; an unsigned integer is written with digits
only; and an integer below `2 ^ 53` that stands where a double is asked for is
that double (`entries_follow_grammar`).  A startup time is part of the grammar
whatever its value is: it says nothing where it is neither a number nor a
literal (`isStartup_epochMillis`).
-/
import NodeWatch.Feed.Decode
import NodeWatch.Proofs.Doubles
import NodeWatch.Proofs.Literals

namespace NodeWatch

namespace Grammar

/-! ## 1. Elements -/

/-- Whether a value is an array that begins with some elements, where an element
that is not there reads as null. -/
def Positional (v : Json) (elements : List Json) : Prop :=
  ∃ items, v = .array items ∧ elements <+: items ++ List.replicate elements.length .null

/-- An unsigned word. -/
def IsUnsigned (v : Json) (n : UInt64) : Prop :=
  v = .number (.unsigned n)

/-- An unsigned half word. -/
def IsHalf (v : Json) (n : UInt32) : Prop :=
  ∃ word : UInt64, v = .number (.unsigned word) ∧ word.toNat = n.toNat

/-- A string. -/
def IsText (v : Json) (s : String) : Prop :=
  v = .string s

/-- A number, as a double. -/
inductive IsNumber : Json → Binary64 → Prop where
  | unsigned (n : UInt64) : IsNumber (.number (.unsigned n)) (.ofInt n.toNat)
  | negative (n : Int64) (below : n < 0) : IsNumber (.number (.negative n below)) (.ofInt n.toInt)
  | double (x : Binary64) : IsNumber (.number (.double x)) x

/-- Null, or what something else says. -/
inductive OrNull {α : Type} (Is : Json → α → Prop) : Json → Option α → Prop where
  | null : OrNull Is .null none
  | some {v : Json} {a : α} : Is v a → OrNull Is v (some a)

/-! ## 2. Parts of a payload -/

/-- The gauges of a node. -/
def IsGauges (v : Json) (gauges : Gauges) : Prop :=
  ∃ peers queued, Positional v [peers, queued] ∧
    IsHalf peers gauges.peers ∧ IsHalf queued gauges.queued

/-- A block. -/
def IsBlock (v : Json) (block : Block) : Prop :=
  ∃ number hash time timestamp propagation,
    Positional v [number, hash, time, timestamp, propagation] ∧
    IsUnsigned number block.number ∧ IsText hash block.hash ∧ IsUnsigned time block.time ∧
    IsUnsigned timestamp block.timestamp ∧ OrNull IsUnsigned propagation block.propagation

/-- A location: an array of just these three, or an object that has them. -/
inductive IsLocation : Json → Location → Prop where
  | array {lat lng city : Json} {l : Location} :
    IsNumber lat l.lat → IsNumber lng l.lng → IsText city l.city →
    IsLocation (.array [lat, lng, city]) l
  | object {members : List (String × Json)} {lat lng city : Json} {l : Location} :
    Json.member? "lat" members = some lat → Json.member? "lng" members = some lng →
    Json.member? "city" members = some city →
    IsNumber lat l.lat → IsNumber lng l.lng → IsText city l.city →
    IsLocation (.object members) l

/-- The details of an announced node. -/
def IsDetails (v : Json) (profile : Profile) : Prop :=
  ∃ name implementation version address networkId,
    Positional v [name, implementation, version, address, networkId] ∧
    IsText name profile.name ∧ IsText implementation profile.implementation ∧
    IsText version profile.version ∧ OrNull IsText address profile.address ∧
    OrNull IsText networkId profile.networkId

/-- The number that a JSON number stands for, if it is finite. -/
def number? : Json.Number → Option ℚ
  | .unsigned n => some n.toNat
  | .negative n _ => some n.toInt
  | .double x => if x.isFinite then some x.value else none

/-- A startup time.  A number is cut toward zero and held to the range of a
signed word (a double that stands for no number is what it is converted to); a
string says what is spelled in it; anything else, and a string in which nothing
is spelled, says nothing. -/
inductive IsStartup : Json → Option Int64 → Prop where
  | number {n : Json.Number} {q : ℚ} {i : Int64} :
    number? n = some q → i.toInt = held (towardZero q) → IsStartup (.number n) (some i)
  | unending {x : Binary64} : x.isFinite = false → IsStartup (.number (.double x)) (some x.toSigned)
  | spelled {s : String} {i : Int64} : Text.SpellsSigned s.toList i → IsStartup (.string s) (some i)
  | unspelled {s : String} : (∀ i, ¬ Text.SpellsSigned s.toList i) → IsStartup (.string s) none
  | null : IsStartup .null none
  | bool {b : Bool} : IsStartup (.bool b) none
  | array {items : List Json} : IsStartup (.array items) none
  | object {members : List (String × Json)} : IsStartup (.object members) none

/-- An announcement.  Two of its elements are not read. -/
def IsAnnouncement (v : Json) (node : Announcement) : Prop :=
  ∃ id details gauges inputs hardware block location startup,
    Positional v [id, details, gauges, inputs, hardware, block, location, startup] ∧
    IsUnsigned id node.feedId ∧ IsDetails details node.profile ∧ IsGauges gauges node.gauges ∧
    IsBlock block node.block ∧ OrNull IsLocation location node.location ∧
    IsStartup startup node.profile.startup

/-- A located node. -/
def IsLocated (v : Json) (f : FeedId) (l : Location) : Prop :=
  ∃ id lat lng city, Positional v [id, lat, lng, city] ∧ IsUnsigned id f ∧
    IsNumber lat l.lat ∧ IsNumber lng l.lng ∧ IsText city l.city

/-- An imported block. -/
def IsImported (v : Json) (f : FeedId) (b : Block) : Prop :=
  ∃ id block, Positional v [id, block] ∧ IsUnsigned id f ∧ IsBlock block b

/-- The gauges of a known node. -/
def IsReported (v : Json) (f : FeedId) (g : Gauges) : Prop :=
  ∃ id gauges, Positional v [id, gauges] ∧ IsUnsigned id f ∧ IsGauges gauges g

/-! ## 3. Entries -/

/-- The codes of the known actions. -/
def codes : List (UInt64 × Action) :=
  [(0, .feedVersion), (1, .bestBlock), (2, .bestFinalized), (3, .addedNode), (4, .removedNode),
    (5, .locatedNode), (6, .importedBlock), (7, .finalizedBlock), (8, .nodeStats),
    (9, .nodeHardware), (10, .timeSync), (11, .addedChain), (12, .removedChain),
    (13, .subscribedTo), (14, .unsubscribedFrom), (15, .pong), (16, .afgFinalized),
    (17, .afgReceivedPrevote), (18, .afgReceivedPrecommit), (19, .afgAuthoritySet),
    (20, .staleNode), (21, .nodeIO)]

/-- What the payload of an action says. -/
def Says (v : Json) (m : Message) : Action → Prop
  | .feedVersion => m = .feedVersion v
  | .addedNode => ∃ node, IsAnnouncement v node ∧ m = .addedNode node
  | .removedNode => ∃ f, IsUnsigned v f ∧ m = .removedNode f
  | .staleNode => ∃ f, IsUnsigned v f ∧ m = .staleNode f
  | .locatedNode => ∃ f l, IsLocated v f l ∧ m = .locatedNode f l
  | .importedBlock => ∃ f b, IsImported v f b ∧ m = .importedBlock f b
  | .nodeStats => ∃ f g, IsReported v f g ∧ m = .nodeStats f g
  | .subscribedTo => m = .subscribedTo (Payload.label v)
  | .pong => m = .pong (Payload.label v)
  | action => m = .ignored action

/-- What an entry says: by its action, or nothing but its code if no action has
it. -/
inductive Spells : UInt64 → Json → Message → Prop where
  | known {code : UInt64} {action : Action} {v : Json} {m : Message} :
    (code, action) ∈ codes → Says v m action → Spells code v m
  | unknown {code : UInt64} {v : Json} :
    (∀ action, (code, action) ∉ codes) → Spells code v (.unknown code)

/-! ## 4. Readers of elements -/

theorem map_eq_ok {ε α β : Type} {x : Except ε α} {f : α → β} {b : β} :
    x.map f = .ok b ↔ ∃ a, x = .ok a ∧ f a = b := by
  cases x <;> simp [Except.map]

theorem toUnsigned64_eq_ok {v : Json} {n : UInt64} :
    v.toUnsigned64 = .ok n ↔ IsUnsigned v n := by
  unfold IsUnsigned Json.toUnsigned64
  split <;> simp_all

theorem toUnsigned32_eq_ok {v : Json} {n : UInt32} : v.toUnsigned32 = .ok n ↔ IsHalf v n := by
  unfold IsHalf Json.toUnsigned32
  split
  · next word =>
    split
    · next small =>
      have same : word.toUInt32.toNat = word.toNat := by
        rw [UInt64.toNat_toUInt32, Nat.mod_eq_of_lt small]
      constructor
      · intro read
        cases read
        exact ⟨word, rfl, same.symm⟩
      · rintro ⟨_, ⟨rfl⟩, value⟩
        rw [← same, UInt32.toNat_inj] at value
        rw [value]
    · next big =>
      constructor
      · intro read
        cases read
      · rintro ⟨_, ⟨rfl⟩, value⟩
        exact absurd n.toNat_lt (by omega)
  · constructor
    · intro read
      cases read
    · rintro ⟨_, ⟨⟩, _⟩
  · next other _ =>
    constructor
    · intro read
      cases read
    · rintro ⟨word, rfl, _⟩
      exact absurd rfl (other word)

theorem toText_eq_ok {v : Json} {s : String} : v.toText = .ok s ↔ IsText v s := by
  unfold IsText Json.toText
  split <;> simp_all

theorem toDouble_eq_ok {v : Json} {x : Binary64} : v.toDouble = .ok x ↔ IsNumber v x := by
  constructor
  · intro read
    unfold Json.toDouble at read
    split at read
    · cases read
      rw [Binary64.ofNat_eq_ofInt]
      exact .unsigned _
    · cases read
      exact .negative _ _
    · cases read
      exact .double _
    · cases read
  · intro number
    cases number with
    | unsigned n => rw [← Binary64.ofNat_eq_ofInt]; rfl
    | negative n below => rfl
    | double x => rfl

theorem orNull_eq_ok {α : Type} {read : Json → Except Json.Mismatch α} {Is : Json → α → Prop}
    (reads : ∀ v a, read v = .ok a ↔ Is v a) (solid : ∀ a, ¬ Is .null a) {v : Json}
    {o : Option α} : Json.orNull read v = .ok o ↔ OrNull Is v o := by
  unfold Json.orNull
  split
  · constructor
    · intro found
      cases found
      exact .null
    · intro found
      cases found with
      | null => rfl
      | some is => exact absurd is (solid _)
  · next other =>
    rw [map_eq_ok]
    constructor
    · rintro ⟨a, found, rfl⟩
      exact .some ((reads v a).1 found)
    · intro found
      cases found with
      | null => exact absurd rfl other
      | some is => exact ⟨_, (reads v _).2 is, rfl⟩

theorem orNull_unsigned_eq_ok {v : Json} {o : Option UInt64} :
    Json.orNull Json.toUnsigned64 v = .ok o ↔ OrNull IsUnsigned v o :=
  orNull_eq_ok (fun _ _ => toUnsigned64_eq_ok) (by rintro _ ⟨⟩)

theorem orNull_text_eq_ok {v : Json} {o : Option String} :
    Json.orNull Json.toText v = .ok o ↔ OrNull IsText v o :=
  orNull_eq_ok (fun _ _ => toText_eq_ok) (by rintro _ ⟨⟩)

/-- The first elements of an array that is filled up with nulls, one by one. -/
theorem take_append_nulls (items : List Json) (width : Nat) :
    (items ++ List.replicate width Json.null).take width =
      (List.range width).map (Json.element items) := by
  refine List.ext_getElem (by simp) ?_
  intro i _ _
  simp only [List.getElem_take, List.getElem_map, List.getElem_range, List.getElem_append,
    List.getElem_replicate, Json.element, List.getD_eq_getElem?_getD]
  split
  · next inside => rw [List.getElem?_eq_getElem inside, Option.getD_some]
  · next outside => rw [List.getElem?_eq_none (by omega), Option.getD_none]

/-- The elements of a positional payload, one by one. -/
theorem positional_iff {v : Json} {elements : List Json} :
    Positional v elements ↔
      ∃ items, v = .array items ∧
        elements = (List.range elements.length).map (Json.element items) := by
  refine exists_congr fun items => and_congr_right fun _ => ?_
  rw [List.prefix_iff_eq_take, take_append_nulls]

/-- Whether some elements are those of a list from a place on. -/
def Places (items : List Json) : Nat → List Json → Prop
  | _, [] => True
  | place, element :: rest => element = Json.element items place ∧ Places items (place + 1) rest

theorem places_range' (items : List Json) (place : Nat) (elements : List Json)
    (same : elements = (List.range' place elements.length).map (Json.element items)) :
    Places items place elements := by
  induction elements generalizing place with
  | nil => trivial
  | cons element rest ih =>
    rw [List.length_cons, List.range'_succ, List.map_cons, List.cons.injEq] at same
    exact ⟨same.1, ih (place + 1) same.2⟩

theorem Positional.places {v : Json} {elements : List Json} (place : Positional v elements) :
    ∃ items, v = .array items ∧ Places items 0 elements := by
  obtain ⟨items, same, elements⟩ := positional_iff.1 place
  rw [List.range_eq_range'] at elements
  exact ⟨items, same, places_range' items 0 _ elements⟩

theorem positional_eq_ok {v : Json} {items : List Json} :
    Payload.positional v = .ok items ↔ v = .array items := by
  unfold Payload.positional
  split <;> simp_all

theorem field_eq_ok {α : Type} {read : Json → Except Json.Mismatch α} {items : List Json}
    {index : Nat} {name : String} {a : α} :
    Payload.field read items index name = .ok a ↔ read (Json.element items index) = .ok a := by
  unfold Payload.field
  cases read (Json.element items index) <;> simp

theorem scalar_eq_ok {α : Type} {read : Json → Except Json.Mismatch α} {v : Json} {a : α} :
    Payload.scalar read v = .ok a ↔ read v = .ok a := by
  unfold Payload.scalar
  cases read v <;> simp

/-! ## 5. Readers of parts -/

theorem gauges_eq_ok {v : Json} {gauges : Gauges} :
    Payload.gauges v = .ok gauges ↔ IsGauges v gauges := by
  simp only [Payload.gauges, bind_eq_ok, positional_eq_ok, field_eq_ok, toUnsigned32_eq_ok]
  constructor
  · rintro ⟨items, rfl, peers, isPeers, queued, isQueued, ⟨⟩⟩
    exact ⟨_, _, positional_iff.2 ⟨items, rfl, rfl⟩, isPeers, isQueued⟩
  · rintro ⟨peers, queued, place, isPeers, isQueued⟩
    obtain ⟨items, rfl, rfl, rfl, -⟩ := place.places
    exact ⟨items, rfl, _, isPeers, _, isQueued, rfl⟩

theorem block_eq_ok {v : Json} {block : Block} :
    Payload.block v = .ok block ↔ IsBlock v block := by
  simp only [Payload.block, bind_eq_ok, positional_eq_ok, field_eq_ok, toUnsigned64_eq_ok,
    toText_eq_ok, orNull_unsigned_eq_ok]
  constructor
  · rintro ⟨items, rfl, _, number, _, hash, _, time, _, timestamp, _, propagation, ⟨⟩⟩
    exact ⟨_, _, _, _, _, positional_iff.2 ⟨items, rfl, rfl⟩, number, hash, time, timestamp,
      propagation⟩
  · rintro ⟨_, _, _, _, _, place, number, hash, time, timestamp, propagation⟩
    obtain ⟨items, rfl, rfl, rfl, rfl, rfl, rfl, -⟩ := place.places
    exact ⟨items, rfl, _, number, _, hash, _, time, _, timestamp, _, propagation, rfl⟩

theorem locationOfArray_eq_ok {items : List Json} {l : Location} :
    Payload.locationOfArray items = .ok l ↔ IsLocation (.array items) l := by
  constructor
  · intro read
    unfold Payload.locationOfArray at read
    split at read
    · cases read
    · obtain ⟨lat, isLat, read⟩ := bind_eq_ok.1 read
      split at read
      · cases read
      · obtain ⟨lng, isLng, read⟩ := bind_eq_ok.1 read
        split at read
        · cases read
        · obtain ⟨city, isCity, read⟩ := bind_eq_ok.1 read
          split at read
          · next none =>
            cases read
            rw [List.isEmpty_iff] at none
            subst none
            exact .array (toDouble_eq_ok.1 isLat) (toDouble_eq_ok.1 isLng) (toText_eq_ok.1 isCity)
          · cases read
  · intro is
    cases is with
    | array isLat isLng isCity =>
      simp only [Payload.locationOfArray, bind_eq_ok, toDouble_eq_ok, toText_eq_ok]
      exact ⟨_, isLat, _, isLng, _, isCity, rfl⟩

theorem mapM_eq_ok_some {ε α β : Type} {f : α → Except ε β} {o : Option α} {b : β} :
    o.mapM f = .ok (some b) ↔ ∃ a, o = some a ∧ f a = .ok b := by
  cases o with
  | none => simp [pure, Except.pure]
  | some a =>
    simp only [Option.mapM_some, Option.some.injEq, exists_eq_left']
    cases f a <;> simp [Functor.map, Except.map]

theorem locationOfObject_eq_ok {members : List (String × Json)} {l : Location} :
    Payload.locationOfObject members = .ok l ↔ IsLocation (.object members) l := by
  constructor
  · intro read
    simp only [Payload.locationOfObject, bind_eq_ok] at read
    obtain ⟨city?, isCity, lat?, isLat, lng?, isLng, read⟩ := read
    split at read
    · cases read
    · cases read
    · cases read
    · cases read
      obtain ⟨lat, hasLat, isLat⟩ := mapM_eq_ok_some.1 isLat
      obtain ⟨lng, hasLng, isLng⟩ := mapM_eq_ok_some.1 isLng
      obtain ⟨city, hasCity, isCity⟩ := mapM_eq_ok_some.1 isCity
      exact .object hasLat hasLng hasCity (toDouble_eq_ok.1 isLat) (toDouble_eq_ok.1 isLng)
        (toText_eq_ok.1 isCity)
  · intro is
    cases is with
    | object hasLat hasLng hasCity isLat isLng isCity =>
      simp only [Payload.locationOfObject, bind_eq_ok]
      exact ⟨_, mapM_eq_ok_some.2 ⟨_, hasCity, toText_eq_ok.2 isCity⟩,
        _, mapM_eq_ok_some.2 ⟨_, hasLat, toDouble_eq_ok.2 isLat⟩,
        _, mapM_eq_ok_some.2 ⟨_, hasLng, toDouble_eq_ok.2 isLng⟩, rfl⟩

theorem location_eq_ok {v : Json} {l : Location} :
    Payload.location v = .ok l ↔ IsLocation v l := by
  unfold Payload.location
  split
  · exact locationOfArray_eq_ok
  · exact locationOfObject_eq_ok
  · next no_array no_object =>
    constructor
    · intro read
      cases read
    · intro is
      cases is with
      | array => exact absurd rfl (no_array _)
      | object => exact absurd rfl (no_object _)

theorem orNull_location_eq_ok {v : Json} {o : Option Location} :
    Json.orNull Payload.location v = .ok o ↔ OrNull IsLocation v o :=
  orNull_eq_ok (fun _ _ => location_eq_ok) (by rintro _ ⟨⟩)

/-- What is read of a number is its value, cut toward zero and held. -/
theorem epochMillis_number {n : Json.Number} {q : ℚ} (value : number? n = some q) :
    ∃ i, Payload.epochMillis (.number n) = some i ∧ i.toInt = held (towardZero q) := by
  cases n with
  | unsigned n =>
    cases value
    have whole : towardZero (n.toNat : ℚ) = n.toNat := towardZero_intCast n.toNat
    by_cases small : n.toNat < 2 ^ 63
    · have fits : Word.FitsSigned n.toNat := ⟨by omega, by omega⟩
      refine ⟨Int64.ofInt n.toNat, if_pos small, ?_⟩
      rw [whole, held_of_fits fits, Int64.toInt_ofInt_of_le fits.1 fits.2]
    · have big := Binary64.toSigned_ofNat_of_le (Nat.le_of_not_lt small) n.toNat_lt
      refine ⟨_, if_neg small, ?_⟩
      rw [whole, big, held]
      omega
  | negative n below =>
    cases value
    have fits : Word.FitsSigned n.toInt := ⟨Int64.le_toInt n, Int64.toInt_lt n⟩
    refine ⟨n, rfl, ?_⟩
    rw [towardZero_intCast, held_of_fits fits]
  | double x =>
    simp only [number?] at value
    split at value
    · next finite =>
      cases value
      exact ⟨_, rfl, Binary64.toInt_toSigned finite⟩
    · cases value

theorem epochMillis_string {s : String} {i : Int64} :
    Payload.epochMillis (.string s) = some i ↔ Text.SpellsSigned s.toList i :=
  Text.signed?_trim_eq_some_iff

theorem isStartup_epochMillis (v : Json) : IsStartup v (Payload.epochMillis v) := by
  cases v with
  | null => exact .null
  | bool b => exact .bool
  | array items => exact .array
  | object members => exact .object
  | string s =>
    cases read : Payload.epochMillis (.string s) with
    | some i => exact .spelled (epochMillis_string.1 read)
    | none =>
      refine .unspelled ?_
      intro i spelled
      rw [epochMillis_string.2 spelled] at read
      cases read
  | number n =>
    cases value : number? n with
    | some q =>
      obtain ⟨i, read, same⟩ := epochMillis_number value
      rw [read]
      exact .number value same
    | none =>
      cases n with
      | unsigned n => cases value
      | negative n below => cases value
      | double x =>
        refine .unending ?_
        by_contra finite
        rw [Bool.not_eq_false] at finite
        simp [number?, finite] at value

/-- A startup time says one thing. -/
theorem IsStartup.eq {v : Json} {o : Option Int64} (is : IsStartup v o) :
    Payload.epochMillis v = o := by
  cases is with
  | number value same =>
    obtain ⟨i, read, same'⟩ := epochMillis_number value
    rw [read, Option.some_inj, ← Int64.toInt_inj, same, same']
  | unending infinite => rfl
  | spelled spelled => exact epochMillis_string.2 spelled
  | @unspelled s unspelled =>
    cases read : Payload.epochMillis (.string s) with
    | none => rfl
    | some i => exact absurd (epochMillis_string.1 read) (unspelled i)
  | _ => rfl

/-! ## 6. Readers of payloads -/

theorem announcement_eq_ok {v : Json} {node : Announcement} :
    Payload.announcement v = .ok node ↔ IsAnnouncement v node := by
  simp only [Payload.announcement, bind_eq_ok, positional_eq_ok, field_eq_ok, toUnsigned64_eq_ok,
    toText_eq_ok, orNull_text_eq_ok, gauges_eq_ok, block_eq_ok, orNull_location_eq_ok]
  constructor
  · rintro ⟨items, rfl, details, place, f, isId, _, name, _, implementation, _, version,
      _, address, _, networkId, _, gauges, _, block, _, location, ⟨⟩⟩
    exact ⟨_, _, _, Json.element items 3, Json.element items 4, _, _, _,
      positional_iff.2 ⟨items, rfl, rfl⟩, isId,
      ⟨_, _, _, _, _, positional_iff.2 ⟨details, place, rfl⟩, name, implementation, version,
        address, networkId⟩, gauges, block, location, isStartup_epochMillis _⟩
  · rintro ⟨_, _, _, _, _, _, _, _, place, isId,
      ⟨_, _, _, _, _, place', name, implementation, version, address, networkId⟩,
      gauges, block, location, startup⟩
    obtain ⟨items, rfl, rfl, rfl, rfl, rfl, rfl, rfl, rfl, rfl, -⟩ := place.places
    obtain ⟨details, same, rfl, rfl, rfl, rfl, rfl, -⟩ := place'.places
    refine ⟨items, rfl, details, same, _, isId, _, name, _, implementation, _, version,
      _, address, _, networkId, _, gauges, _, block, _, location, ?_⟩
    rw [startup.eq]

theorem located_eq_ok {v : Json} {f : FeedId} {l : Location} :
    Payload.located v = .ok (f, l) ↔ IsLocated v f l := by
  simp only [Payload.located, bind_eq_ok, positional_eq_ok, field_eq_ok, toUnsigned64_eq_ok,
    toDouble_eq_ok, toText_eq_ok]
  constructor
  · rintro ⟨items, rfl, _, isId, _, lat, _, lng, _, city, ⟨⟩⟩
    exact ⟨_, _, _, _, positional_iff.2 ⟨items, rfl, rfl⟩, isId, lat, lng, city⟩
  · rintro ⟨_, _, _, _, place, isId, lat, lng, city⟩
    obtain ⟨items, rfl, rfl, rfl, rfl, rfl, -⟩ := place.places
    exact ⟨items, rfl, _, isId, _, lat, _, lng, _, city, rfl⟩

theorem imported_eq_ok {v : Json} {f : FeedId} {b : Block} :
    Payload.imported v = .ok (f, b) ↔ IsImported v f b := by
  simp only [Payload.imported, bind_eq_ok, positional_eq_ok, field_eq_ok, toUnsigned64_eq_ok,
    block_eq_ok]
  constructor
  · rintro ⟨items, rfl, _, isId, _, block, ⟨⟩⟩
    exact ⟨_, _, positional_iff.2 ⟨items, rfl, rfl⟩, isId, block⟩
  · rintro ⟨_, _, place, isId, block⟩
    obtain ⟨items, rfl, rfl, rfl, -⟩ := place.places
    exact ⟨items, rfl, _, isId, _, block, rfl⟩

theorem reported_eq_ok {v : Json} {f : FeedId} {g : Gauges} :
    Payload.reported v = .ok (f, g) ↔ IsReported v f g := by
  simp only [Payload.reported, bind_eq_ok, positional_eq_ok, field_eq_ok, toUnsigned64_eq_ok,
    gauges_eq_ok]
  constructor
  · rintro ⟨items, rfl, _, isId, _, gauges, ⟨⟩⟩
    exact ⟨_, _, positional_iff.2 ⟨items, rfl, rfl⟩, isId, gauges⟩
  · rintro ⟨_, _, place, isId, gauges⟩
    obtain ⟨items, rfl, rfl, rfl, -⟩ := place.places
    exact ⟨items, rfl, _, isId, _, gauges, rfl⟩

/-- The payload of an action is read just if it says something. -/
theorem message_eq_ok {action : Action} {v : Json} {m : Message} :
    Payload.message action v = .ok m ↔ Says v m action := by
  have word : ∀ f, Payload.scalar Json.toUnsigned64 v = .ok f ↔ IsUnsigned v f :=
    fun _ => scalar_eq_ok.trans toUnsigned64_eq_ok
  cases action with
  | addedNode => exact map_eq_ok.trans (exists_congr fun _ => and_congr announcement_eq_ok eq_comm)
  | removedNode => exact map_eq_ok.trans (exists_congr fun f => and_congr (word f) eq_comm)
  | staleNode => exact map_eq_ok.trans (exists_congr fun f => and_congr (word f) eq_comm)
  | locatedNode =>
    refine map_eq_ok.trans (Prod.exists.trans ?_)
    exact exists_congr fun _ => exists_congr fun _ => and_congr located_eq_ok eq_comm
  | importedBlock =>
    refine map_eq_ok.trans (Prod.exists.trans ?_)
    exact exists_congr fun _ => exists_congr fun _ => and_congr imported_eq_ok eq_comm
  | nodeStats =>
    refine map_eq_ok.trans (Prod.exists.trans ?_)
    exact exists_congr fun _ => exists_congr fun _ => and_congr reported_eq_ok eq_comm
  | _ => simp [Payload.message, Says, eq_comm]

/-! ## 7. Codes -/

theorem ofCode?_of_mem {code : UInt64} {action : Action} (known : (code, action) ∈ codes) :
    Action.ofCode? code = some action := by
  have all : ∀ pair ∈ codes, Action.ofCode? pair.1 = some pair.2 := by decide
  exact all _ known

theorem mem_of_ofCode? {code : UInt64} {action : Action}
    (known : Action.ofCode? code = some action) : (code, action) ∈ codes := by
  have all : ∀ i : Fin 22, ∀ action, Action.all[i.val]? = some action →
      (UInt64.ofNat i.val, action) ∈ codes := by decide
  obtain ⟨small, -⟩ := List.getElem?_eq_some_iff.1 known
  have member := all ⟨code.toNat, small⟩ action known
  rwa [UInt64.ofNat_toNat] at member

/-- An entry decodes to a message just if the grammar has it. -/
theorem decode_eq_ok {code : UInt64} {v : Json} {m : Message} :
    Message.decode code v = .ok m ↔ Spells code v m := by
  unfold Message.decode
  cases known : Action.ofCode? code with
  | none =>
    have unknown : ∀ action, (code, action) ∉ codes := by
      intro action member
      rw [ofCode?_of_mem member] at known
      cases known
    constructor
    · intro read
      cases read
      exact .unknown unknown
    · intro spelled
      cases spelled with
      | known member _ => exact absurd member (unknown _)
      | unknown _ => rfl
  | some action =>
    have member := mem_of_ofCode? known
    dsimp only
    constructor
    · intro read
      split at read
      · next message =>
        cases read
        exact .known member (message_eq_ok.1 message)
      · cases read
    · intro spelled
      cases spelled with
      | known member' spelled =>
        rw [ofCode?_of_mem member'] at known
        cases known
        rw [message_eq_ok.2 spelled]
      | unknown unknown => exact absurd member (unknown _)

/-- The gauges of node 12, with an element that is not known yet. -/
example : Spells 8 (.array [.number (.unsigned 12),
    .array [.number (.unsigned 8), .number (.unsigned 0)], .bool true]) (.nodeStats 12 ⟨8, 0⟩) :=
  decode_eq_ok.1 rfl

/-! ## 8. The grammar -/

/-- An entry decodes just if the grammar has it, and to what it says there; an
unsigned integer is digits and nothing else; and an integer below `2 ^ 53` is
itself as a double. -/
theorem entries_follow_grammar :
    (∀ (code : UInt64) (v : Json) (m : Message),
      Message.decode code v = .ok m ↔ Spells code v m) ∧
      (∀ (room : Nat) (cs rest : List Char) (n : UInt64),
        Json.readValue room cs = .ok (.number (.unsigned n), rest) ↔
          Json.BeginsUnsigned (Json.skipSpace cs) n rest) ∧
      (∀ v, ∃ o, IsStartup v o) ∧
      ∀ i : ℤ, i.natAbs < 2 ^ 53 → (Binary64.ofInt i).value = i :=
  ⟨fun _ _ _ => decode_eq_ok, fun _ _ _ _ => Json.readValue_unsigned_iff,
    fun v => ⟨_, isStartup_epochMillis v⟩, fun _ small => (Binary64.value_ofInt small).2⟩

end Grammar

end NodeWatch
