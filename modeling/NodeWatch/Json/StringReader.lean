/-
NodeWatch.Json.StringReader — the strings of a JSON text.

A string ends at the first quote that is not escaped.  Control characters
must be escaped.  A character beyond the first 65536 can be written as
two escapes, a high and a low surrogate; a surrogate without its other
half is refused.
-/
import NodeWatch.Json.Numeral

namespace NodeWatch.Json

/-- The value of a hexadecimal digit. -/
def hexDigit? (c : Char) : Option Nat :=
  if c.isDigit then some (digit c)
  else if 'a' ≤ c ∧ c ≤ 'f' then some (c.toNat - 'a'.toNat + 10)
  else if 'A' ≤ c ∧ c ≤ 'F' then some (c.toNat - 'A'.toNat + 10)
  else none

/-- Take four hexadecimal digits.  They are four bytes of the text, also
where those are not four characters. -/
def readHex (cs : List Char) : Except Stop (Nat × List Char) :=
  match (cs.take 4).mapM hexDigit? with
  | some [a, b, c, d] => .ok (((a * 16 + b) * 16 + c) * 16 + d, cs.drop 4)
  | _ =>
    if 4 ≤ byteCount cs then .error ⟨.unknownEscape, byteCount cs - 4⟩
    else .error ⟨.endInString, 0⟩

/-- Whether a code unit begins a surrogate pair. -/
def isHighSurrogate (n : Nat) : Bool :=
  decide (0xd800 ≤ n) && decide (n ≤ 0xdbff)

/-- Whether a code unit ends a surrogate pair. -/
def isLowSurrogate (n : Nat) : Bool :=
  decide (0xdc00 ≤ n) && decide (n ≤ 0xdfff)

/-- Take the second escape of a surrogate pair that begins with `high`. -/
def readLowSurrogate (high : Nat) (cs : List Char) : Except Stop (Char × List Char) :=
  match cs with
  | [] => stopBefore .endInString []
  | '\\' :: [] => stopBefore .endInString []
  | '\\' :: 'u' :: rest => do
    let (low, rest) ← readHex rest
    if isLowSurrogate low then
      .ok (Char.ofNat (0x10000 + (high - 0xd800) * 0x400 + (low - 0xdc00)), rest)
    else stopBefore .loneSurrogate rest
  | '\\' :: rest => stopOn .halfSurrogatePair rest
  | rest => stopOn .halfSurrogatePair rest

/-- Take an escape whose backslash is taken already. -/
def readEscape (cs : List Char) : Except Stop (Char × List Char) :=
  match cs with
  | [] => stopBefore .endInString []
  | '"' :: rest => .ok ('"', rest)
  | '\\' :: rest => .ok ('\\', rest)
  | '/' :: rest => .ok ('/', rest)
  | 'b' :: rest => .ok ('\x08', rest)
  | 'f' :: rest => .ok ('\x0c', rest)
  | 'n' :: rest => .ok ('\n', rest)
  | 'r' :: rest => .ok ('\r', rest)
  | 't' :: rest => .ok ('\t', rest)
  | 'u' :: rest => do
    let (n, rest) ← readHex rest
    if isLowSurrogate n then stopBefore .loneSurrogate rest
    else if isHighSurrogate n then readLowSurrogate n rest
    else .ok (Char.ofNat n, rest)
  | rest => stopOn .unknownEscape rest

/-- Take the characters of a string up to its closing quote, in at most
`steps` steps; a step takes at least one character. -/
def readChars : (steps : Nat) → List Char → Except Stop (List Char × List Char)
  | 0, rest => stopBefore .endInString rest
  | _ + 1, [] => stopBefore .endInString []
  | steps + 1, c :: rest =>
    if c = '"' then .ok ([], rest)
    else if c = '\\' then do
      let (c, rest) ← readEscape rest
      let (cs, rest) ← readChars steps rest
      .ok (c :: cs, rest)
    else if c.toNat < 0x20 then stopBefore .controlCharacter rest
    else do
      let (cs, rest) ← readChars steps rest
      .ok (c :: cs, rest)

/-- Take a string whose opening quote is taken already. -/
def readString (cs : List Char) : Except Stop (String × List Char) := do
  let (cs, rest) ← readChars (cs.length + 1) cs
  .ok (String.ofList cs, rest)

end NodeWatch.Json
