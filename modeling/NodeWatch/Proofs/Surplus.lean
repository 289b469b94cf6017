/-
NodeWatch.Proofs.Surplus — elements behind the known ones, and missing ones.

The feed grows at the end of its arrays and leaves out what it does not have.  A
positional array is therefore read up to a width: what stands behind is cut off,
and what is missing reads as null (`Json.cut`).

Main statement: what comes of the payload of an action, a message or an error,
depends on nothing but the payload up to its width, and on each array in it up
to the width of that one (`surplus_ignored`).  It is enough that two payloads
agree element by element, since no reader looks at a list otherwise
(`message_alike`).

One array is not read like this, the location of an announcement, which has
three elements or is refused.  A located node has the same three behind its id,
and there they are positional.  So the two agree on every location of at most
three elements, and on no longer one (`announced_location_iff`,
`grown_location_refused`).
-/
import NodeWatch.Proofs.Grammar

namespace NodeWatch

/-! ## 1. Cut arrays -/

namespace Json

/-- The elements of an array up to a width: what stands behind is left out, and
what is missing is null. -/
def cut (width : Nat) (items : List Json) : List Json :=
  (items ++ List.replicate width Json.null).take width

theorem element_cut {width index : Nat} (inside : index < width) (items : List Json) :
    element (cut width items) index = element items index := by
  rw [cut, Grammar.take_append_nulls, element, List.getD_eq_getElem?_getD]
  simp [inside]

theorem cut_eq_iff {width : Nat} {xs ys : List Json} :
    cut width xs = cut width ys ↔ ∀ index < width, element xs index = element ys index := by
  simp [cut, Grammar.take_append_nulls]

/-- Elements that stand before others and those behind them are found in their
places, whatever stands between. -/
theorem element_replace {before behind : List Json} {index : Nat} (other : index ≠ before.length)
    (v w : Json) : element (before ++ v :: behind) index = element (before ++ w :: behind) index := by
  simp only [element, List.getD_eq_getElem?_getD, List.getElem?_append]
  split
  · rfl
  · next outside =>
    obtain ⟨more, distance⟩ : ∃ more, index - before.length = more + 1 :=
      ⟨index - before.length - 1, by omega⟩
    rw [distance, List.getElem?_cons_succ, List.getElem?_cons_succ]

theorem element_between (before behind : List Json) (v : Json) :
    element (before ++ v :: behind) before.length = v := by
  simp [element]

end Json

namespace Payload

open Json (element cut cut_eq_iff)

/-- Whether what is read of an array depends on its elements up to a width: a
longer array says no more, and nulls at its end say nothing. -/
structure UpTo {ρ : Type} (width : Nat) (read : List Json → ρ) : Prop where
  cut : ∀ items, read (cut width items) = read items
  surplus : ∀ items more, width ≤ items.length → read (items ++ more) = read items
  nulls : ∀ items n, read (items ++ List.replicate n .null) = read items

theorem UpTo.of_element {ρ : Type} {width : Nat} {read : List Json → ρ}
    (same : ∀ xs ys, (∀ index < width, element xs index = element ys index) → read xs = read ys) :
    UpTo width read where
  cut items := same _ _ fun _ inside => Json.element_cut inside items
  surplus items more long := by
    refine same _ _ fun index inside => ?_
    simp only [element, List.getD_eq_getElem?_getD]
    rw [List.getElem?_append_left (by omega)]
  nulls items n := by
    refine same _ _ fun index _ => ?_
    simp only [element, List.getD_eq_getElem?_getD, List.getElem?_append, List.getElem?_replicate]
    split
    · rfl
    · next outside =>
      rw [List.getElem?_eq_none (by omega : items.length ≤ index)]
      split <;> rfl

/-! ## 2. Alike payloads -/

/-- The elements that an action reads of its payload: for each the width of the
element, if it is positional itself. -/
def layout? : Action → Option (List (Option Nat))
  | .addedNode => some [none, some 5, some 2, none, none, some 5, none, none]
  | .locatedNode => some [none, none, none, none]
  | .importedBlock => some [none, some 5]
  | .nodeStats => some [none, some 2]
  | _ => none

/-- Whether two elements are the same, or are arrays that are the same up to the
width of the element. -/
inductive Alike : Option Nat → Json → Json → Prop where
  | same (width? : Option Nat) (v : Json) : Alike width? v v
  | array {width : Nat} {xs ys : List Json} :
    cut width xs = cut width ys → Alike (some width) (.array xs) (.array ys)

/-- Whether two payloads have alike elements in all places of a layout. -/
def AlikeIn (layout : List (Option Nat)) (xs ys : List Json) : Prop :=
  ∀ place width?, layout[place]? = some width? → Alike width? (element xs place) (element ys place)

theorem Alike.eq {v w : Json} (alike : Alike none v w) : v = w := by
  cases alike with
  | same => rfl

variable {xs ys : List Json}

theorem gauges_alike {v w : Json} (alike : Alike (some 2) v w) : gauges v = gauges w := by
  cases alike with
  | same => rfl
  | array same =>
    have each := cut_eq_iff.1 same
    simp only [gauges, positional, bind, Except.bind, field, each 0 (by decide),
      each 1 (by decide)]

theorem block_alike {v w : Json} (alike : Alike (some 5) v w) : block v = block w := by
  cases alike with
  | same => rfl
  | array same =>
    have each := cut_eq_iff.1 same
    simp only [block, positional, bind, Except.bind, field, each 0 (by decide),
      each 1 (by decide), each 2 (by decide), each 3 (by decide), each 4 (by decide)]

theorem announcement_alike
    (alike : AlikeIn [none, some 5, some 2, none, none, some 5, none, none] xs ys) :
    announcement (.array xs) = announcement (.array ys) := by
  have id := (alike 0 none rfl).eq
  have details := alike 1 (some 5) rfl
  have gauges := gauges_alike (alike 2 (some 2) rfl)
  have block := block_alike (alike 5 (some 5) rfl)
  have location := (alike 6 none rfl).eq
  have startup := (alike 7 none rfl).eq
  simp only [announcement, positional, bind, Except.bind, field, id, gauges, block, location,
    startup]
  generalize element xs 1 = v, element ys 1 = w at details
  cases details with
  | same => rfl
  | array same =>
    have each := cut_eq_iff.1 same
    simp only [each 0 (by decide), each 1 (by decide), each 2 (by decide), each 3 (by decide),
      each 4 (by decide)]

theorem located_alike (alike : AlikeIn [none, none, none, none] xs ys) :
    located (.array xs) = located (.array ys) := by
  have id := (alike 0 none rfl).eq
  have lat := (alike 1 none rfl).eq
  have lng := (alike 2 none rfl).eq
  have city := (alike 3 none rfl).eq
  simp only [located, positional, bind, Except.bind, field, id, lat, lng, city]

theorem imported_alike (alike : AlikeIn [none, some 5] xs ys) :
    imported (.array xs) = imported (.array ys) := by
  have id := (alike 0 none rfl).eq
  have block := block_alike (alike 1 (some 5) rfl)
  simp only [imported, positional, bind, Except.bind, field, id, block]

theorem reported_alike (alike : AlikeIn [none, some 2] xs ys) :
    reported (.array xs) = reported (.array ys) := by
  have id := (alike 0 none rfl).eq
  have gauges := gauges_alike (alike 1 (some 2) rfl)
  simp only [reported, positional, bind, Except.bind, field, id, gauges]

/-- Alike payloads come to the same message, or to the same error. -/
theorem message_alike {action : Action} {layout : List (Option Nat)}
    (laid : layout? action = some layout) (alike : AlikeIn layout xs ys) :
    message action (.array xs) = message action (.array ys) := by
  cases action with
  | addedNode => cases laid; simp only [message, announcement_alike alike]
  | locatedNode => cases laid; simp only [message, located_alike alike]
  | importedBlock => cases laid; simp only [message, imported_alike alike]
  | nodeStats => cases laid; simp only [message, reported_alike alike]
  | _ => cases laid

/-- Payloads with the same elements up to the width of a layout are alike in it. -/
theorem alikeIn_of_element {layout : List (Option Nat)}
    (same : ∀ index < layout.length, element xs index = element ys index) :
    AlikeIn layout xs ys := by
  intro place width? stands
  rw [same place (List.getElem?_eq_some_iff.1 stands).1]
  exact .same width? _

/-- Payloads that differ in one element are alike if these elements are. -/
theorem alikeIn_of_alike {layout : List (Option Nat)} {before behind : List Json}
    {width? : Option Nat} (stands : layout[before.length]? = some width?) {v w : Json}
    (alike : Alike width? v w) : AlikeIn layout (before ++ v :: behind) (before ++ w :: behind) := by
  intro place other? stands'
  by_cases here : place = before.length
  · subst here
    rw [stands] at stands'
    cases stands'
    rwa [Json.element_between, Json.element_between]
  · rw [Json.element_replace here v w]
    exact .same other? _

/-! ## 3. What is ignored -/

/-- What comes of a payload, be it a message or an error, depends on its elements
up to its width, and on each array in it up to the width of that array, one by one
and all together. -/
theorem surplus_ignored {code : UInt64} {action : Action} {layout : List (Option Nat)}
    (known : Action.ofCode? code = some action) (laid : layout? action = some layout) :
    UpTo layout.length (fun items => Message.decode code (.array items)) ∧
      (∀ before behind width, layout[before.length]? = some (some width) →
        UpTo width fun part => Message.decode code (.array (before ++ .array part :: behind))) ∧
      ∀ xs ys, AlikeIn layout xs ys →
        Message.decode code (.array xs) = Message.decode code (.array ys) := by
  have decode_alike : ∀ xs ys, AlikeIn layout xs ys →
      Message.decode code (.array xs) = Message.decode code (.array ys) := by
    intro xs ys alike
    simp only [Message.decode, known, message_alike laid alike]
  refine ⟨?_, ?_, decode_alike⟩
  · exact .of_element fun xs ys same => decode_alike xs ys (alikeIn_of_element same)
  · intro before behind width stands
    refine .of_element fun xs ys same => decode_alike _ _ ?_
    exact alikeIn_of_alike stands (.array (cut_eq_iff.2 same))

/-- A block that is imported by a node, with a hash and no more known of it. -/
def exampleImported : List Json :=
  [.number (.unsigned 12), .array [.number (.unsigned 7), .string "0x07"]]

theorem surplus_ignored_exampleImported :
    Action.ofCode? 6 = some .importedBlock ∧ layout? .importedBlock = some [none, some 5] ∧
      Message.decode 6 (.array exampleImported) =
        .error (.payload .importedBlock "block time (index 2): invalid type: null, expected u64") ∧
      Message.decode 6 (.array (exampleImported ++ [.bool true])) =
        Message.decode 6 (.array exampleImported) ∧
      Message.decode 6 (.array [.number (.unsigned 12),
          .array ([.number (.unsigned 7), .string "0x07"] ++ List.replicate 9 .null)]) =
        Message.decode 6 (.array exampleImported) := by
  have ignored := @surplus_ignored 6 .importedBlock [none, some 5] rfl rfl
  refine ⟨rfl, rfl, rfl, ?_, ?_⟩
  · exact ignored.1.surplus exampleImported [.bool true] (by decide)
  · exact (ignored.2.1 [.number (.unsigned 12)] [] 5 rfl).nulls _ 9

/-! ## 4. Locations of announcements and of located nodes -/

/-- Three elements that stand where a location has them. -/
structure Triple (items : List Json) (l : Location) : Prop where
  lat : (element items 0).toDouble = .ok l.lat
  lng : (element items 1).toDouble = .ok l.lng
  city : (element items 2).toText = .ok l.city

/-- No element of a location may be missing. -/
theorem Triple.length {l : Location} (triple : Triple xs l) : 3 ≤ xs.length := by
  by_contra short
  have missing : element xs 2 = .null := by
    rw [element, List.getD_eq_getElem?_getD, List.getElem?_eq_none (by omega), Option.getD_none]
  have city := triple.city
  rw [missing] at city
  cases city

/-- A located node is where the elements behind its id say. -/
theorem located_cons_eq_ok {id f : UInt64} {l : Location} :
    located (.array (.number (.unsigned id) :: xs)) = .ok (f, l) ↔ f = id ∧ Triple xs l := by
  simp only [located, positional, bind_eq_ok, Grammar.field_eq_ok]
  constructor
  · rintro ⟨_, ⟨⟩, _, isId, lat, isLat, lng, isLng, city, isCity, ⟨⟩⟩
    cases isId
    exact ⟨rfl, isLat, isLng, isCity⟩
  · rintro ⟨rfl, isLat, isLng, isCity⟩
    exact ⟨_, rfl, _, rfl, _, isLat, _, isLng, _, isCity, rfl⟩

/-- A location is an array of three elements that say where it is. -/
theorem locationOfArray_iff {l : Location} :
    locationOfArray xs = .ok l ↔ xs.length = 3 ∧ Triple xs l := by
  rw [Grammar.locationOfArray_eq_ok]
  constructor
  · intro is
    cases is with
    | array isLat isLng isCity =>
      exact ⟨rfl, Grammar.toDouble_eq_ok.2 isLat, Grammar.toDouble_eq_ok.2 isLng,
        Grammar.toText_eq_ok.2 isCity⟩
  · rintro ⟨three, isLat, isLng, isCity⟩
    obtain ⟨lat, lng, city, rfl⟩ := List.length_eq_three.1 three
    exact .array (Grammar.toDouble_eq_ok.1 isLat) (Grammar.toDouble_eq_ok.1 isLng)
      (Grammar.toText_eq_ok.1 isCity)

/-- Elements behind the third are noticed when the three have been read. -/
theorem locationOfArray_surplus {l : Location} (triple : Triple xs l) (long : 3 < xs.length) :
    locationOfArray xs = .error (.length xs.length .fewerElements) := by
  obtain ⟨isLat, isLng, isCity⟩ := triple
  match xs, long with
  | lat :: lng :: city :: more :: rest, _ =>
    have isLat' : lat.toDouble = .ok l.lat := isLat
    have isLng' : lng.toDouble = .ok l.lng := isLng
    have isCity' : city.toText = .ok l.city := isCity
    simp [locationOfArray, isLat', isLng', isCity', bind, Except.bind]

/-- An announcement that can be decoded without a location can be decoded with
whatever is read as one, and is the same otherwise. -/
theorem announcement_located {before behind : List Json} {node : Announcement}
    (six : before.length = 6)
    (otherwise : announcement (.array (before ++ .null :: behind)) = .ok node) (v : Json) :
    announcement (.array (before ++ v :: behind)) =
      match Json.orNull location v with
      | .ok location => .ok { node with location }
      | .error mismatch => .error ("location (index 6): " ++ mismatch.message) := by
  have same : ∀ index ≠ 6, element (before ++ v :: behind) index =
      element (before ++ .null :: behind) index :=
    fun index other => Json.element_replace (six ▸ other) v .null
  have here : element (before ++ v :: behind) 6 = v := six ▸ Json.element_between before behind v
  simp only [announcement, bind_eq_ok, Grammar.positional_eq_ok, Grammar.field_eq_ok] at otherwise
  obtain ⟨_, ⟨⟩, details, isDetails, f, isId, name, isName, implementation, isImplementation,
    version, isVersion, address, isAddress, networkId, isNetworkId, gauges, isGauges, block,
    isBlock, _, _, ⟨⟩⟩ := otherwise
  simp only [announcement, positional, bind, Except.bind, field, here, same 0 (by decide),
    same 1 (by decide), same 2 (by decide), same 5 (by decide), same 7 (by decide), isId,
    isDetails, isName, isImplementation, isVersion, isAddress, isNetworkId, isGauges, isBlock]
  cases Json.orNull location v <;> rfl

theorem decode_three (v : Json) :
    Message.decode 3 v =
      match announcement v with
      | .ok node => .ok (.addedNode node)
      | .error reason => .error (.payload .addedNode reason) := by
  have known : Action.ofCode? 3 = some .addedNode := rfl
  rw [Message.decode, known]
  simp only [message]
  cases announcement v <;> rfl

theorem decode_five (v : Json) :
    Message.decode 5 v =
      match located v with
      | .ok (f, l) => .ok (.locatedNode f l)
      | .error reason => .error (.payload .locatedNode reason) := by
  have known : Action.ofCode? 5 = some .locatedNode := rfl
  rw [Message.decode, known]
  simp only [message]
  cases located v <;> rfl

/-- An announcement with an array for its location, if it can be decoded without
one. -/
theorem decode_announced {before behind : List Json} {node : Announcement}
    (six : before.length = 6)
    (otherwise : Message.decode 3 (.array (before ++ .null :: behind)) = .ok (.addedNode node))
    (items : List Json) :
    Message.decode 3 (.array (before ++ .array items :: behind)) =
      match locationOfArray items with
      | .ok l => .ok (.addedNode { node with location := some l })
      | .error mismatch =>
        .error (.payload .addedNode ("location (index 6): " ++ mismatch.message)) := by
  have without : announcement (.array (before ++ .null :: behind)) = .ok node := by
    rw [decode_three] at otherwise
    split at otherwise
    · next is =>
      cases otherwise
      exact is
    · cases otherwise
  have read : Json.orNull location (.array items) = (locationOfArray items).map some := rfl
  rw [decode_three, announcement_located six without, read]
  cases locationOfArray items <;> rfl

/-- A located node is decoded just if the three elements behind its id say where
it is. -/
theorem decode_located {id : UInt64} {m : Message} :
    Message.decode 5 (.array (.number (.unsigned id) :: xs)) = .ok m ↔
      ∃ l, m = .locatedNode id l ∧ Triple xs l := by
  rw [decode_five]
  constructor
  · intro read
    split at read
    · next f l is =>
      cases read
      obtain ⟨rfl, triple⟩ := located_cons_eq_ok.1 is
      exact ⟨l, rfl, triple⟩
    · cases read
  · rintro ⟨l, rfl, triple⟩
    rw [located_cons_eq_ok.2 ⟨rfl, triple⟩]

/-- An announcement is decoded with an array for its location just if a located
node is with the same elements and there are no more than three; and both say the
same location.  If there are more, the announcement is refused for their number
only. -/
theorem announced_location_iff {before behind : List Json} {node : Announcement}
    (six : before.length = 6)
    (otherwise : Message.decode 3 (.array (before ++ .null :: behind)) = .ok (.addedNode node))
    (id : UInt64) (xs : List Json) :
    (∀ m, Message.decode 3 (.array (before ++ .array xs :: behind)) = .ok m →
        ∃ l, m = .addedNode { node with location := some l }) ∧
      (∀ m, Message.decode 5 (.array (.number (.unsigned id) :: xs)) = .ok m →
        ∃ l, m = .locatedNode id l) ∧
      (∀ l, Message.decode 3 (.array (before ++ .array xs :: behind)) =
            .ok (.addedNode { node with location := some l }) ↔
          xs.length ≤ 3 ∧
            Message.decode 5 (.array (.number (.unsigned id) :: xs)) = .ok (.locatedNode id l)) ∧
      ∀ l, 3 < xs.length →
        Message.decode 5 (.array (.number (.unsigned id) :: xs)) = .ok (.locatedNode id l) →
        Message.decode 3 (.array (before ++ .array xs :: behind)) =
          .error (.payload .addedNode ("location (index 6): " ++
            (Json.Mismatch.length xs.length .fewerElements).message)) := by
  rw [decode_announced six otherwise]
  have triple_iff : ∀ l, Message.decode 5 (.array (.number (.unsigned id) :: xs)) =
      .ok (.locatedNode id l) ↔ Triple xs l := by
    intro l
    rw [decode_located]
    constructor
    · rintro ⟨_, ⟨⟩, triple⟩
      exact triple
    · exact fun triple => ⟨l, rfl, triple⟩
  refine ⟨?_, ?_, ?_, ?_⟩
  · intro m read
    split at read
    · next l _ => cases read; exact ⟨l, rfl⟩
    · cases read
  · intro m read
    obtain ⟨l, same, -⟩ := decode_located.1 read
    exact ⟨l, same⟩
  · intro l
    rw [triple_iff]
    constructor
    · intro read
      split at read
      · next l' is =>
        obtain ⟨three, triple⟩ := locationOfArray_iff.1 is
        cases read
        exact ⟨three.le, triple⟩
      · cases read
    · rintro ⟨few, triple⟩
      rw [locationOfArray_iff.2 ⟨few.antisymm triple.length, triple⟩]
  · intro l long located
    rw [locationOfArray_surplus ((triple_iff l).1 located) long]

/-- An announcement up to its location. -/
def exampleBefore : List Json :=
  [.number (.unsigned 7), .array [.string "alice", .string "substrate", .string "1.0"],
    .array [.number (.unsigned 8), .number (.unsigned 0)], .null, .null,
    .array [.number (.unsigned 10), .string "0x0a", .number (.unsigned 6000),
      .number (.unsigned 0), .number (.unsigned 120)]]

/-- What the announcement says. -/
def exampleAlice : Announcement where
  feedId := 7
  profile := ⟨"alice", "substrate", "1.0", none, none, none⟩
  gauges := ⟨8, 0⟩
  block := ⟨10, "0x0a", 6000, 0, some 120⟩
  location := none

/-- The latitude, the longitude and the city of a location. -/
def exampleTriple : List Json :=
  [.number (.unsigned 60), .number (.unsigned 11), .string "Oslo"]

theorem announced_location_iff_exampleTriple :
    exampleBefore.length = 6 ∧
      Message.decode 3 (.array (exampleBefore ++ [.null])) = .ok (.addedNode exampleAlice) ∧
      Message.decode 3 (.array (exampleBefore ++ [.array exampleTriple])) =
        .ok (.addedNode { exampleAlice with
          location := some ⟨.ofNat 60, .ofNat 11, "Oslo"⟩ }) :=
  ⟨rfl, rfl, ((announced_location_iff rfl rfl 7 exampleTriple).2.2.1 _).2 ⟨by decide, rfl⟩⟩

/-- With the country behind the city, which newer feeds may tell, a located node
is decoded and an announcement is not. -/
theorem grown_location_refused :
    ¬ ∀ (before behind xs : List Json) (node : Announcement) (id : UInt64), before.length = 6 →
        Message.decode 3 (.array (before ++ .null :: behind)) = .ok (.addedNode node) →
        ((∃ m, Message.decode 3 (.array (before ++ .array xs :: behind)) = .ok m) ↔
          ∃ m, Message.decode 5 (.array (.number (.unsigned id) :: xs)) = .ok m) := by
  intro agree
  have both := agree exampleBefore [] (exampleTriple ++ [.string "NO"]) exampleAlice 7 rfl rfl
  obtain ⟨m, read⟩ := both.2 ⟨_, rfl⟩
  rw [decode_announced rfl rfl] at read
  cases read

end Payload

end NodeWatch
