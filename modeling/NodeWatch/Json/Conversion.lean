/-
NodeWatch.Json.Conversion — typed readings of a JSON value, or a mismatch.

A reading takes a value of its own kind and refuses every other one with
what was found and what was expected.  An integer of the right kind that
is out of range is a value mismatch, not a type mismatch.  Doubles are
read from any number, rounding an integer that is too long; no integer is
ever read from a double.
-/
import NodeWatch.Json.Printer
import NodeWatch.Text.Quoted

namespace NodeWatch.Json

/-! ## 1. Mismatches -/

/-- What a reading asks for. -/
inductive Expected where
  | unsigned64
  | unsigned32
  | double
  | string
  | list
  | location
  | locationOfThree
  | fewerElements
  deriving DecidableEq, Repr

/-- The text of what a reading asks for. -/
def Expected.text : Expected → String
  | .unsigned64 => "u64"
  | .unsigned32 => "u32"
  | .double => "f64"
  | .string => "a string"
  | .list => "a sequence"
  | .location => "struct Location"
  | .locationOfThree => "struct Location with 3 elements"
  | .fewerElements => "fewer elements in array"

/-- Why a value cannot be read. -/
inductive Mismatch where
  /-- A value of another kind was found. -/
  | type (found : Json) (expected : Expected)
  /-- An integer out of range was found. -/
  | value (found : Json) (expected : Expected)
  /-- An array with another number of elements was found. -/
  | length (found : Nat) (expected : Expected)
  /-- A member is not there. -/
  | missing (member : String)

/-- How a mismatch names the value that was found. -/
def described : Json → String
  | .null => "null"
  | .bool b => "boolean `" ++ (if b then "true" else "false") ++ "`"
  | .number (.double x) => "floating point `" ++ String.ofList (doubleText x) ++ "`"
  | .number n => "integer `" ++ String.ofList n.text ++ "`"
  | .string s => "string " ++ Text.quoted s
  | .array _ => "sequence"
  | .object _ => "map"

/-- The text under which a mismatch is reported. -/
def Mismatch.message : Mismatch → String
  | .type found expected =>
    "invalid type: " ++ found.described ++ ", expected " ++ expected.text
  | .value found expected =>
    "invalid value: " ++ found.described ++ ", expected " ++ expected.text
  | .length found expected =>
    "invalid length " ++ Text.ofNat found ++ ", expected " ++ expected.text
  | .missing member => "missing field `" ++ member ++ "`"

/-! ## 2. Readings -/

/-- An unsigned word. -/
def toUnsigned64 : Json → Except Mismatch UInt64
  | .number (.unsigned n) => .ok n
  | .number (.negative n below) => .error (.value (.number (.negative n below)) .unsigned64)
  | other => .error (.type other .unsigned64)

/-- An unsigned half word. -/
def toUnsigned32 : Json → Except Mismatch UInt32
  | .number (.unsigned n) =>
    if n.toNat < 2 ^ 32 then .ok n.toUInt32
    else .error (.value (.number (.unsigned n)) .unsigned32)
  | .number (.negative n below) => .error (.value (.number (.negative n below)) .unsigned32)
  | other => .error (.type other .unsigned32)

/-- A double; an integer is rounded to the nearest one. -/
def toDouble : Json → Except Mismatch Binary64
  | .number (.unsigned n) => .ok (.ofNat n.toNat)
  | .number (.negative n _) => .ok (.ofInt n.toInt)
  | .number (.double x) => .ok x
  | other => .error (.type other .double)

/-- A string. -/
def toText : Json → Except Mismatch String
  | .string s => .ok s
  | other => .error (.type other .string)

/-- Null, or what `read` reads. -/
def orNull {α : Type} (read : Json → Except Mismatch α) : Json → Except Mismatch (Option α)
  | .null => .ok none
  | other => (read other).map some

end NodeWatch.Json
