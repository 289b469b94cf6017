/-
NodeWatch.Json.Numeral — the numbers of a JSON text.

The digits of a number are gathered into an unsigned word.  Integer
digits for which the word has no room only raise the exponent, fraction
digits for which it has none are passed over.  A number with neither
point nor exponent is an integer if it fits; all others are doubles, made
from the gathered significand and the exponent by `Binary64.ofDecimal`.
-/
import NodeWatch.Binary64.Decimal
import NodeWatch.Json.Defect

namespace NodeWatch.Json

/-- The value of a decimal digit. -/
def digit (c : Char) : Nat :=
  c.toNat - '0'.toNat

/-- Take digits onto `total` while it stays below `limit`: the total, how
many digits were taken, and the rest. -/
def gather (limit : Nat) (total taken : Nat) : List Char → Nat × Nat × List Char
  | [] => (total, taken, [])
  | c :: rest =>
    if c.isDigit && decide (total * 10 + digit c < limit) then
      gather limit (total * 10 + digit c) (taken + 1) rest
    else (total, taken, c :: rest)

/-- Whether the text goes on with a digit. -/
def startsWithDigit : List Char → Bool
  | c :: _ => c.isDigit
  | [] => false

/-- The double of a decimal, unless it is out of range. -/
def finishDouble (negative : Bool) (significand : Nat) (exponent : Int) (rest : List Char) :
    Except Stop (Json × List Char) :=
  match Binary64.ofDecimal significand exponent with
  | some x => .ok (.number (.double (if negative then x.neg else x)), rest)
  | none => stopBefore .numberOutOfRange rest

/-- Take the exponent behind an `e`.  An exponent that outgrows 31 bits
makes nothing of the number, or puts it out of range, at that digit. -/
def readExponent (negative : Bool) (significand : Nat) (exponent : Int) (rest : List Char) :
    Except Stop (Json × List Char) :=
  let (below, rest) := match rest with
    | '+' :: r => (false, r)
    | '-' :: r => (true, r)
    | r => (false, r)
  match rest with
  | [] => stopBefore .endInValue []
  | c :: _ =>
    if !c.isDigit then stopOn .malformedNumber rest
    else
      let (size, _, rest) := gather (2 ^ 31) 0 0 rest
      if startsWithDigit rest then
        if significand ≠ 0 ∧ below = false then stopBefore .numberOutOfRange (rest.drop 1)
        else .ok (.number (.double (.ofSign negative 0)), rest.dropWhile Char.isDigit)
      else
        finishDouble negative significand (if below then exponent - size else exponent + size) rest

/-- Take what may follow the digits of a double: an exponent or nothing. -/
def readTail (negative : Bool) (significand : Nat) (exponent : Int) (rest : List Char) :
    Except Stop (Json × List Char) :=
  match rest with
  | 'e' :: r => readExponent negative significand exponent r
  | 'E' :: r => readExponent negative significand exponent r
  | r => finishDouble negative significand exponent r

/-- Take the digits behind the point.  Digits for which the significand
has no room are passed over. -/
def readFraction (negative : Bool) (significand : Nat) (exponent : Int) (rest : List Char) :
    Except Stop (Json × List Char) :=
  let (total, taken, rest) := gather (2 ^ 64) significand 0 rest
  if startsWithDigit rest then
    readTail negative total (exponent - taken) (rest.dropWhile Char.isDigit)
  else if taken = 0 then
    stopOn (if rest.isEmpty then .endInValue else .malformedNumber) rest
  else readTail negative total (exponent - taken) rest

/-- The integer of a significand that is followed by neither point nor
exponent. -/
def integer (negative : Bool) (significand : Nat) : Number :=
  if negative then
    let n := Int64.ofInt (-significand)
    if h : n < 0 ∧ significand ≤ 2 ^ 63 then .negative n h.1
    else .double (Binary64.ofNat significand).neg
  else .unsigned (UInt64.ofNat significand)

/-- Take a number, its sign being taken already.  Integer digits for
which the significand has no room raise the exponent. -/
def readNumber (negative : Bool) (cs : List Char) : Except Stop (Json × List Char) :=
  match cs with
  | [] => stopBefore .endInValue []
  | '0' :: rest =>
    if startsWithDigit rest then stopOn .malformedNumber rest
    else readParts negative 0 rest
  | c :: _ =>
    if c.isDigit then
      let (significand, _, rest) := gather (2 ^ 64) 0 0 cs
      if startsWithDigit rest then
        let more := rest.takeWhile Char.isDigit
        match rest.dropWhile Char.isDigit with
        | '.' :: r => readFraction negative significand more.length r
        | r => readTail negative significand more.length r
      else readParts negative significand rest
    else stopOn .malformedNumber cs
where
  /-- Take what follows the integer digits. -/
  readParts (negative : Bool) (significand : Nat) (rest : List Char) :
      Except Stop (Json × List Char) :=
    match rest with
    | '.' :: r => readFraction negative significand 0 r
    | 'e' :: r => readExponent negative significand 0 r
    | 'E' :: r => readExponent negative significand 0 r
    | r => .ok (.number (integer negative significand), r)

end NodeWatch.Json
