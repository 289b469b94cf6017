/-
NodeWatch.Text.Utf8 — bytes read as UTF-8 text, or where they are not.

A text is read whole or refused at the first byte that no character can
begin with or that leaves a character unfinished.  The fault names that
place and how many bytes are wrong there; at the end of the input the
bytes may be the beginning of a character, and then only the place is
known.
-/
import NodeWatch.Text.Numeral

namespace NodeWatch.Text

/-- Why bytes are not UTF-8 text. -/
inductive Utf8Fault where
  /-- `length` bytes from `index` on begin no character. -/
  | invalid (length index : Nat)
  /-- The bytes from `index` on are the beginning of a character. -/
  | incomplete (index : Nat)
  deriving DecidableEq, Repr

/-- The text under which a fault is reported. -/
def Utf8Fault.message : Utf8Fault → String
  | .invalid length index =>
    "invalid utf-8 sequence of " ++ ofNat length ++ " bytes from index " ++ ofNat index
  | .incomplete index => "incomplete utf-8 byte sequence from index " ++ ofNat index

/-- Whether a byte can stand second or later in a character. -/
def isTail (b : UInt8) : Bool :=
  decide (0x80 ≤ b) && decide (b ≤ 0xbf)

/-- How many bytes a character that begins with `a` has, and the least
and greatest byte that may stand second in it. -/
def leadByte (a : UInt8) : Option (Nat × UInt8 × UInt8) :=
  if a ≤ 0x7f then some (1, 0x80, 0xbf)
  else if a < 0xc2 then none
  else if a ≤ 0xdf then some (2, 0x80, 0xbf)
  else if a = 0xe0 then some (3, 0xa0, 0xbf)
  else if a = 0xed then some (3, 0x80, 0x9f)
  else if a ≤ 0xef then some (3, 0x80, 0xbf)
  else if a = 0xf0 then some (4, 0x90, 0xbf)
  else if a ≤ 0xf3 then some (4, 0x80, 0xbf)
  else if a = 0xf4 then some (4, 0x80, 0x8f)
  else none

/-- How many bytes the character at `index` has that begins the bytes. -/
def characterLength (index : Nat) : List UInt8 → Except Utf8Fault Nat
  | [] => .ok 0
  | a :: rest =>
    match leadByte a with
    | none => .error (.invalid 1 index)
    | some (length, least, greatest) =>
      if length = 1 then .ok 1
      else match rest with
      | [] => .error (.incomplete index)
      | b :: rest =>
        if b < least || greatest < b then .error (.invalid 1 index)
        else if length = 2 then .ok 2
        else match rest with
        | [] => .error (.incomplete index)
        | c :: rest =>
          if !isTail c then .error (.invalid 2 index)
          else if length = 3 then .ok 3
          else match rest with
          | [] => .error (.incomplete index)
          | d :: _ => if isTail d then .ok 4 else .error (.invalid 3 index)

/-- The first fault of the bytes from `index` on, the first `inside` of
which end a character that is known to be sound. -/
def firstFault (index : Nat) : (inside : Nat) → List UInt8 → Option Utf8Fault
  | _, [] => none
  | inside + 1, _ :: rest => firstFault (index + 1) inside rest
  | 0, a :: rest =>
    match characterLength index (a :: rest) with
    | .error fault => some fault
    | .ok length => firstFault (index + 1) (length - 1) rest

/-- The text that the bytes spell, or their first fault. -/
def decodeUtf8 (bytes : ByteArray) : Except Utf8Fault String :=
  match String.fromUTF8? bytes with
  | some text => .ok text
  | none => .error ((firstFault 0 0 bytes.data.toList).getD (.incomplete bytes.size))

/-- Bytes are read as a text just if they are the bytes of that text. -/
theorem decodeUtf8_eq_ok_iff {bytes : ByteArray} {text : String} :
    decodeUtf8 bytes = .ok text ↔ text.toUTF8 = bytes := by
  unfold decodeUtf8 String.fromUTF8?
  constructor
  · intro decoded
    split at decoded
    · next text' found =>
      cases decoded
      split at found
      · cases found
        rfl
      · cases found
    · cases decoded
  · rintro rfl
    have sound : text.toUTF8.IsValidUTF8 := text.isValidUTF8
    rw [dif_pos sound]
    rfl

end NodeWatch.Text
