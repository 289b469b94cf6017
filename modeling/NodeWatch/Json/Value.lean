/-
NodeWatch.Json.Value — JSON values as the feed sends them.

A number is an integer when it is written as one and fits a word: an
unsigned word from zero up, a signed one below zero.  Every other number
is a double, and so is minus zero.  The members of an object stand in the
order of their keys, each key once; the last value given for a key holds.
-/
import NodeWatch.Binary64.Basic

namespace NodeWatch

/-- A number of a JSON text. -/
inductive Json.Number where
  | unsigned (n : UInt64)
  | negative (n : Int64) (below : n < 0)
  | double (x : Binary64)
  deriving DecidableEq, Repr

/-- A JSON value. -/
inductive Json where
  | null
  | bool (b : Bool)
  | number (n : Json.Number)
  | string (s : String)
  | array (items : List Json)
  | object (members : List (String × Json))
  deriving Inhabited, Repr

namespace Json

/-- The members with `value` under `key`, in the order of the keys. -/
def insertMember (key : String) (value : Json) : List (String × Json) → List (String × Json)
  | [] => [(key, value)]
  | (k, v) :: rest =>
    if key = k then (key, value) :: rest
    else if key < k then (key, value) :: (k, v) :: rest
    else (k, v) :: insertMember key value rest

/-- The value under `key`. -/
def member? (key : String) (members : List (String × Json)) : Option Json :=
  (members.find? fun pair => pair.1 == key).map Prod.snd

/-- The element at `index`; an element that is not there reads as null. -/
def element (items : List Json) (index : Nat) : Json :=
  items.getD index .null

end Json

end NodeWatch
