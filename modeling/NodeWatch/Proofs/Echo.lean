/-
NodeWatch.Proofs.Echo — which pongs carry the id of a ping.

The payload of a pong is any JSON value.  A string is read as it stands, any
other value through its compact text, and what is read is trimmed and must be an
unsigned literal.  The compact text of an unsigned number is such a literal, of
the number itself.  Every other value that is no string has a character in its
text that is neither a blank nor a digit nor a plus (`exists_stray`), so none of
them is read.  Both together say which payloads carry an id (`pongId?_label_iff`).

The id in a command comes back through the feed as a string or as a number.  Its
digits are those of a JSON integer and of a JSON string, so each of the two frames
is read as one pong with that payload (`parseList_echo`).

Main statement: while the ping `n` is unanswered, a pong is taken just if its
payload `Echoes` the id: an unsigned number that is `n`, or a string that spells
it between blanks; any other payload is a fault.  What was sent behind the colon of
the ping is taken back, as a string and as a number (`pong_echoes`).
-/
import NodeWatch.Feed.Session
import NodeWatch.Proofs.Literals

namespace NodeWatch

/-! ## 1. Characters of a literal -/

namespace Text

/-- Whether a character can stand in the spelling of an unsigned number. -/
def Spelling (c : Char) : Prop :=
  isBlank c = true ∨ c.isDigit = true ∨ c = '+'

instance (c : Char) : Decidable (Spelling c) :=
  inferInstanceAs (Decidable (_ ∨ _ ∨ _))

theorem UnsignedLiteral.spelling {literal : List Char} {n : Nat}
    (spelled : UnsignedLiteral literal n) : ∀ c ∈ literal, Spelling c := by
  intro c member
  cases spelled with
  | plain digits => exact .inr (.inl (List.all_eq_true.1 digits.digits c member))
  | plus digits =>
    cases member with
    | head => exact .inr (.inr rfl)
    | tail _ member => exact .inr (.inl (List.all_eq_true.1 digits.digits c member))

theorem SpellsUnsigned.spelling {cs : List Char} {n : Nat} (spelled : SpellsUnsigned cs n) :
    ∀ c ∈ cs, Spelling c := by
  obtain ⟨before, literal, after, rfl, blank, blank', spelled⟩ := spelled
  intro c member
  rw [List.mem_append, List.mem_append] at member
  rcases member with member | member | member
  · exact .inl (blank c member)
  · exact spelled.spelling c member
  · exact .inl (blank' c member)

/-- The digits of a number spell it. -/
theorem spellsUnsigned_toDigits (n : Nat) : SpellsUnsigned (Nat.toDigits 10 n) n :=
  ⟨[], Nat.toDigits 10 n, [], by simp, by simp [Blank], by simp [Blank],
    .plain (natural?_eq_some_iff.1 (natural?_toDigits n))⟩

theorem SpellsUnsigned.unique {cs : List Char} {m n : Nat} (first : SpellsUnsigned cs m)
    (second : SpellsUnsigned cs n) : m = n := by
  have read (k : Nat) (spelled : SpellsUnsigned cs k) (small : k < m + n + 1) :
      unsigned? (m + n + 1) (trim cs) = some k :=
    unsigned?_trim_eq_some_iff.2 ⟨spelled, small⟩
  exact Option.some.inj ((read m first (by omega)).symm.trans (read n second (by omega)))

end Text

open Text

/-! ## 2. Texts of other values -/

namespace Json

/-- The text of a double has a point or an exponent. -/
theorem exists_stray_magnitudeText (x : Binary64) : ∃ c ∈ magnitudeText x, ¬ Spelling c := by
  unfold magnitudeText
  split
  · exact ⟨'.', by simp, by decide⟩
  · dsimp only
    split
    · refine ⟨'.', ?_, by decide⟩
      unfold positional
      split <;> simp
    · exact ⟨'e', by simp [scientific], by decide⟩

/-- The text of any value but a string and an unsigned number has a character
that stands in no spelling of an unsigned number. -/
theorem exists_stray {v : Json} (text : ∀ s, v ≠ .string s)
    (number : ∀ w, v ≠ .number (.unsigned w)) : ∃ c ∈ v.text, ¬ Spelling c := by
  cases v with
  | null => exact ⟨'n', List.mem_cons_self, by decide⟩
  | bool b => cases b with
    | true => exact ⟨'t', List.mem_cons_self, by decide⟩
    | false => exact ⟨'f', List.mem_cons_self, by decide⟩
  | number n => cases n with
    | unsigned w => exact absurd rfl (number w)
    | negative n below => exact ⟨'-', List.mem_cons_self, by decide⟩
    | double x =>
      obtain ⟨c, member, stray⟩ := exists_stray_magnitudeText x
      refine ⟨c, ?_, stray⟩
      rw [Json.text, Number.text, doubleText]
      split
      · exact List.mem_cons_of_mem _ member
      · exact member
  | string s => exact absurd rfl (text s)
  | array items => exact ⟨'[', List.mem_cons_self, by decide⟩
  | object members => exact ⟨'\x7b', List.mem_cons_self, by decide⟩

end Json

/-! ## 3. Payloads that carry an id -/

/-- Whether the payload of a pong carries an id: as an unsigned number, or as a
string in which there is nothing but a literal of it and blanks. -/
inductive Echoes (n : Nat) : Json → Prop where
  | number (w : UInt64) : w.toNat = n → Echoes n (.number (.unsigned w))
  | text (s : String) : SpellsUnsigned s.toList n → Echoes n (.string s)

theorem pongId?_eq_some_iff {text : String} {n : Nat} :
    KeepAlive.pongId? text = some n ↔ SpellsUnsigned text.toList n ∧ n < 2 ^ 64 :=
  unsigned?_trim_eq_some_iff

/-- What is read of a payload, if anything is, is the id that it carries. -/
theorem pongId?_label_iff {v : Json} {n : Nat} (small : n < 2 ^ 64) :
    KeepAlive.pongId? (Payload.label v) = some n ↔ Echoes n v := by
  rw [pongId?_eq_some_iff]
  by_cases text : ∃ s, v = .string s
  · obtain ⟨s, rfl⟩ := text
    constructor
    · rintro ⟨spelled, -⟩
      exact .text s spelled
    · rintro ⟨⟩
      exact ⟨‹_›, small⟩
  by_cases number : ∃ w, v = .number (.unsigned w)
  · obtain ⟨w, rfl⟩ := number
    have printed : (Payload.label (.number (.unsigned w))).toList = Nat.toDigits 10 w.toNat := by
      simp [Payload.label, Json.compact, Json.text, Json.Number.text]
    rw [printed]
    constructor
    · rintro ⟨spelled, -⟩
      exact .number w ((spellsUnsigned_toDigits _).unique spelled)
    · rintro ⟨_, rfl⟩
      exact ⟨spellsUnsigned_toDigits _, small⟩
  · rw [not_exists] at text number
    constructor
    · rintro ⟨spelled, -⟩
      obtain ⟨c, member, stray⟩ := Json.exists_stray text number
      refine absurd (spelled.spelling c ?_) stray
      cases v <;> simp_all [Payload.label, Json.compact]
    · intro echoes
      cases echoes with
      | number w _ => exact absurd rfl (number w)
      | text s _ => exact absurd rfl (text s)

/-! ## 4. Pongs on the wire -/

namespace Json

/-- Digits stand in a string as they are. -/
theorem readChars_digits {steps : Nat} {digits rest : List Char}
    (all : digits.all Char.isDigit = true) (room : digits.length < steps) :
    readChars steps (digits ++ '"' :: rest) = .ok (digits, rest) := by
  induction digits generalizing steps with
  | nil =>
    cases steps with
    | zero => cases room
    | succ steps => rfl
  | cons c digits ih =>
    cases steps with
    | zero => cases room
    | succ steps =>
      rw [List.all_cons, Bool.and_eq_true] at all
      obtain ⟨low, -⟩ := Char.isDigit_iff_toNat.1 all.1
      have low : 48 ≤ c.toNat := low
      have plain : c ≠ '"' ∧ c ≠ '\\' := by
        constructor <;>
          · rintro rfl
            cases all.1
      rw [List.cons_append, readChars, if_neg plain.1, if_neg plain.2, if_neg (by omega),
        ih all.2 (Nat.lt_of_succ_lt_succ room)]
      rfl

theorem readString_digits {digits rest : List Char} (all : digits.all Char.isDigit = true) :
    readString (digits ++ '"' :: rest) = .ok (String.ofList digits, rest) := by
  have room : digits.length < (digits ++ '"' :: rest).length + 1 := by
    rw [List.length_append]
    omega
  rw [readString, readChars_digits all room]
  rfl

/-- Whether an element begins at once: with no space before it. -/
def BeginsItem (cs : List Char) : Prop :=
  ∃ c rest, cs = c :: rest ∧ isSpace c = false ∧ c ≠ ']'

theorem BeginsItem.skipSpace {cs : List Char} (begins : BeginsItem cs) : skipSpace cs = cs := by
  obtain ⟨c, rest, rfl, dark, -⟩ := begins
  exact List.dropWhile_cons_of_neg (by simp [dark])

/-- A list of two elements, without spaces, is read by reading one after the
other. -/
theorem readItems_pair {read : ValueReader} {a b : Json} {first second : List Char}
    (begins : BeginsItem first) (begins' : BeginsItem second)
    (one : read first = .ok (a, ',' :: second)) (two : read second = .ok (b, [']'])) :
    readItems read first = .ok ([a, b], []) := by
  have more : readMoreItems read (second.length + 2) (',' :: second) = .ok ([b], []) := by
    have comma : NodeWatch.Json.skipSpace (',' :: second) = ',' :: second := rfl
    have space := begins'.skipSpace
    obtain ⟨c, rest, rfl, -, other⟩ := begins'
    simp only [readMoreItems, comma, space]
    split
    · next empty => cases empty
    · next bracket => exact absurd (List.cons.inj bracket).1 other
    · rw [two]
      rfl
  have space := begins.skipSpace
  obtain ⟨c, rest, rfl, -, other⟩ := begins
  unfold readItems
  rw [space]
  split
  · next empty => cases empty
  · next bracket => exact absurd (List.cons.inj bracket).1 other
  · rw [one]
    show (readMoreItems read (second.length + 2) (',' :: second)).bind _ = _
    rw [more]
    rfl

/-- A string of digits is read as it stands. -/
theorem readValue_string {room : Nat} {digits rest : List Char}
    (all : digits.all Char.isDigit = true) :
    readValue room ('"' :: (digits ++ '"' :: rest)) =
      .ok (.string (String.ofList digits), rest) := by
  have space : skipSpace ('"' :: (digits ++ '"' :: rest)) = '"' :: (digits ++ '"' :: rest) := rfl
  unfold readValue
  simp only [space, readString_digits all]
  rfl

theorem Canonical.beginsItem {digits : List Char} (canonical : Canonical digits)
    (rest : List Char) : BeginsItem (digits ++ rest) := by
  have first : ∃ c cs, digits = c :: cs ∧ c.isDigit = true := by
    cases canonical with
    | zero => exact ⟨'0', [], rfl, rfl⟩
    | positive digit _ _ => exact ⟨_, _, rfl, digit⟩
  obtain ⟨c, cs, rfl, digit⟩ := first
  refine ⟨c, cs ++ rest, rfl, ?_, ?_⟩
  · simp only [isSpace, Bool.or_eq_false_iff, beq_eq_false_iff_ne]
    refine ⟨⟨⟨?_, ?_⟩, ?_⟩, ?_⟩ <;>
      · rintro rfl
        cases digit
  · rintro rfl
    cases digit

/-- The digits of a number are read as that number. -/
theorem readValue_toDigits {room : Nat} {w : UInt64} {rest : List Char} (ends : EndsNumber rest) :
    readValue room (Nat.toDigits 10 w.toNat ++ rest) = .ok (.number (.unsigned w), rest) := by
  have canonical := canonical_toDigits w.toNat
  rw [readValue_unsigned_iff, (canonical.beginsItem rest).skipSpace]
  exact ⟨_, rfl, canonical, Nat.ofDigitChars_ten_toDigits, ends⟩

/-- A code and a payload, without spaces, are read as a list of both. -/
theorem parseList_frame {code : UInt64} {payload : String} {v : Json}
    (begins : BeginsItem (payload.toList ++ [']']))
    (read : readValue (maxDepth - 1) (payload.toList ++ [']']) = .ok (v, [']'])) :
    parseList ("[" ++ Text.ofNat code.toNat ++ "," ++ payload ++ "]") =
      .ok [.number (.unsigned code), v] := by
  have place : ("[" ++ Text.ofNat code.toNat ++ "," ++ payload ++ "]").toList =
      '[' :: (Nat.toDigits 10 code.toNat ++ ',' :: (payload.toList ++ [']'])) := by
    simp [Text.ofNat]
  have first : readValue (maxDepth - 1)
      (Nat.toDigits 10 code.toNat ++ ',' :: (payload.toList ++ [']'])) =
        .ok (.number (.unsigned code), ',' :: (payload.toList ++ [']'])) := by
    refine readValue_toDigits ?_
    rintro c ⟨⟩
    decide
  have items := readItems_pair ((canonical_toDigits code.toNat).beginsItem _) begins first read
  have list : readList ('[' :: (Nat.toDigits 10 code.toNat ++ ',' :: (payload.toList ++ [']']))) =
      .ok [.number (.unsigned code), v] := by
    have space (cs : List Char) : skipSpace ('[' :: cs) = '[' :: cs := rfl
    unfold readList
    simp only [space, items]
    rfl
  rw [parseList, place]
  simp only [list]

end Json

/-! ## 5. Echoes -/

/-- An entry of a frame with the code of pongs. -/
def Message.pongEntry (payload : Json) : Except DecodeError Message :=
  Message.ofEntry (.number (.unsigned Action.pong.code)) payload

/-- The text of a frame with one pong, from the text of its payload. -/
def Message.pongFrame (payload : String) : String :=
  "[" ++ Text.ofNat Action.pong.code.toNat ++ "," ++ payload ++ "]"

/-- Digits between quotes are read as one pong with that string. -/
theorem parseList_pongFrame_text (n : Nat) :
    Json.parseList (Message.pongFrame ("\"" ++ Text.ofNat n ++ "\"")) =
      .ok [.number (.unsigned Action.pong.code), .string (Text.ofNat n)] := by
  have digits := (natural?_eq_some_iff.1 (natural?_toDigits n)).digits
  have place : ("\"" ++ Text.ofNat n ++ "\"").toList ++ [']'] =
      '"' :: (Nat.toDigits 10 n ++ '"' :: [']']) := by
    simp [Text.ofNat]
  refine Json.parseList_frame ?_ ?_
  · rw [place]
    exact ⟨'"', _, rfl, by decide, by decide⟩
  · rw [place]
    exact Json.readValue_string digits

/-- Digits alone are read as one pong with that number. -/
theorem parseList_pongFrame_number (w : UInt64) :
    Json.parseList (Message.pongFrame (Text.ofNat w.toNat)) =
      .ok [.number (.unsigned Action.pong.code), .number (.unsigned w)] := by
  have place : (Text.ofNat w.toNat).toList ++ [']'] = Nat.toDigits 10 w.toNat ++ [']'] := by
    simp [Text.ofNat]
  refine Json.parseList_frame ?_ ?_
  · rw [place]
    exact (Json.canonical_toDigits w.toNat).beginsItem _
  · rw [place]
    refine Json.readValue_toDigits ?_
    rintro c ⟨⟩
    decide

namespace Reaction

/-- The same, once the pong has been taken that answers its ping, and what its
text and its round trip are has been told. -/
def answered (r : Reaction) (label : String) (roundTrip : Nat) : Reaction :=
  (r.withKeepAlive ⟨r.session.keepAlive.nextId + 1, none⟩).notice (.pongTaken label roundTrip)

/-- What pongs lead to while the ping `n`, sent at the instant `sent`, is
unanswered. -/
structure PongEchoes (r : Reaction) (n sent now : Nat) : Prop where
  /-- A pong that carries the id of the ping is its answer. -/
  taken : ∀ v, Echoes n v →
    r.take now (Message.pongEntry v) = r.answered (Payload.label v) (now - sent)
  /-- Any other pong is a fault. -/
  refused : ∀ v, ¬ Echoes n v → r.take now (Message.pongEntry v) =
    { r with fault := some (.unexpectedPong (some n) (Payload.label v)) }
  /-- So a pong is taken just if it carries the id. -/
  taken_iff : ∀ v, (r.take now (Message.pongEntry v)).fault = none ↔ Echoes n v
  /-- Whatever their texts are, only strings and unsigned numbers are taken. -/
  others : ∀ v, (∀ s, v ≠ .string s) → (∀ w, v ≠ .number (.unsigned w)) →
    (r.take now (Message.pongEntry v)).fault ≠ none
  /-- A frame that is read as one pong leads to what the pong leads to. -/
  frames : ∀ frame v, Json.parseList frame = .ok [.number (.unsigned Action.pong.code), v] →
    r.takeFrame now frame = r.take now (Message.pongEntry v)
  /-- The id is sent in digits. -/
  digits : ∀ (idle : Reaction) (instant : Nat), idle.session.keepAlive = ⟨n, none⟩ →
    (idle.ping instant).sent = idle.sent ++ ["ping:" ++ Text.ofNat n] ∧
      (idle.ping instant).session.keepAlive.outstanding = some (n, instant)
  /-- The same digits are taken back as a string. -/
  asText : r.takeFrame now (Message.pongFrame ("\"" ++ Text.ofNat n ++ "\"")) =
    r.answered (Text.ofNat n) (now - sent)
  /-- They are taken back as a number. -/
  asNumber : r.takeFrame now (Message.pongFrame (Text.ofNat n)) =
    r.answered (Text.ofNat n) (now - sent)

section

variable {r : Reaction} {n sent : Nat} (calm : r.fault = none)
  (waits : r.session.keepAlive.outstanding = some (n, sent))

include calm

theorem take_pongEntry (now : Nat) (v : Json) :
    r.take now (Message.pongEntry v) = r.pong now (Payload.label v) := by
  have entry : Message.pongEntry v = .ok (.pong (Payload.label v)) := rfl
  rw [entry, take, calm]
  rfl

theorem takeFrame_pong (now : Nat) {frame : String} {v : Json}
    (read : Json.parseList frame = .ok [.number (.unsigned Action.pong.code), v]) :
    r.takeFrame now frame = r.take now (Message.pongEntry v) := by
  have entries : Message.ofFrame frame = .ok [Message.pongEntry v] := by
    simp [Message.ofFrame, read, Message.ofEntries, Message.pongEntry]
  rw [takeFrame, calm, entries]
  rfl

include waits

theorem take_echo (now : Nat) (small : n < 2 ^ 64) {v : Json} (echoes : Echoes n v) :
    r.take now (Message.pongEntry v) = r.answered (Payload.label v) (now - sent) := by
  rw [take_pongEntry calm, pong, KeepAlive.pong, waits]
  simp only [(pongId?_label_iff small).2 echoes, if_true]
  rfl

theorem take_other (now : Nat) (small : n < 2 ^ 64) {v : Json} (other : ¬ Echoes n v) :
    r.take now (Message.pongEntry v) =
      { r with fault := some (.unexpectedPong (some n) (Payload.label v)) } := by
  have unread : KeepAlive.pongId? (Payload.label v) ≠ some n :=
    fun read => other ((pongId?_label_iff small).1 read)
  rw [take_pongEntry calm, pong, KeepAlive.pong, waits]
  simp only [unread, if_false]

end

/-- A pong is taken just if it carries the id of the unanswered ping. -/
theorem pong_echoes {r : Reaction} {n sent : Nat} (now : Nat) (calm : r.fault = none)
    (waits : r.session.keepAlive.outstanding = some (n, sent)) (room : n < 2 ^ 64 - 1) :
    PongEchoes r n sent now := by
  have small : n < 2 ^ 64 := by omega
  have taken_iff (v : Json) :
      (r.take now (Message.pongEntry v)).fault = none ↔ Echoes n v := by
    by_cases echoes : Echoes n v
    · simp only [take_echo calm waits now small echoes, echoes, iff_true]
      exact calm
    · simp [take_other calm waits now small echoes, echoes]
  refine ⟨fun v => take_echo calm waits now small, fun v => take_other calm waits now small,
    taken_iff, ?_, fun frame v => takeFrame_pong calm now, ?_, ?_, ?_⟩
  · intro v text number taken
    cases (taken_iff v).1 taken with
    | number w _ => exact number w rfl
    | text s _ => exact text s rfl
  · intro idle instant free
    simp [ping, KeepAlive.ping, free, send, notice, withKeepAlive, Command.ping]
  · rw [takeFrame_pong calm now (parseList_pongFrame_text n)]
    refine take_echo calm waits now small (.text _ ?_)
    rw [Text.ofNat, String.toList_ofList]
    exact spellsUnsigned_toDigits n
  · have word : (UInt64.ofNat n).toNat = n := UInt64.toNat_ofNat_of_lt' small
    have read := parseList_pongFrame_number (UInt64.ofNat n)
    rw [word] at read
    have shown : Payload.label (.number (.unsigned (UInt64.ofNat n))) = Text.ofNat n :=
      congrArg Text.ofNat word
    rw [takeFrame_pong calm now read, take_echo calm waits now small (.number _ word), shown]

/-- A session in which the ping 7 has been sent, and is not answered. -/
def exampleUnanswered : Reaction where
  tracker := .ofStore (.tables .empty) .default
  session := ⟨⟨7, some (7, 100)⟩, true⟩

theorem pong_echoes_exampleUnanswered :
    exampleUnanswered.fault = none ∧
      exampleUnanswered.session.keepAlive.outstanding = some (7, 100) ∧ 7 < 2 ^ 64 - 1 ∧
      PongEchoes exampleUnanswered 7 100 130 :=
  ⟨rfl, rfl, by decide, pong_echoes 130 rfl rfl (by decide)⟩

end Reaction

end NodeWatch
