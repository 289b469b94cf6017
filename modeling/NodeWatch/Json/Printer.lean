/-
NodeWatch.Json.Printer — the compact text of a JSON value.

Nothing stands between the tokens.  In a string only the double quote,
the backslash and the control characters are escaped.  A double is
written with its shortest digits: with a point while its size is at least
1e-5 and below 1e16, else with one digit before the point and a signed
exponent.  The text of a double therefore always holds a point or an `e`,
and no integer is written like one.
-/
import NodeWatch.Json.Value
import NodeWatch.Binary64.Shortest
import NodeWatch.Text.Numeral

namespace NodeWatch.Json

/-! ## 1. Doubles -/

/-- Where positional notation of a double begins and ends: the exponents
of the first digit between which it is used. -/
structure DoubleLayout where
  least : Int
  greatest : Int

/-- The decisions for numbers in JSON text: 1e-5 and 1e15 are the last
powers of ten that are written out. -/
def doubleLayout : DoubleLayout where
  least := -5
  greatest := 15

/-- The decimal digits of `n` without the zeros at their end. -/
def leadingDigits (n : Nat) : List Char :=
  ((Nat.toDigits 10 n).reverse.dropWhile (· == '0')).reverse

/-- The digits `ds` of a number whose first digit stands for
`10 ^ first`, with a point and at least one digit on either side of it. -/
def positional (ds : List Char) (first : Int) : List Char :=
  if first < 0 then
    ['0', '.'] ++ List.replicate (-first - 1).toNat '0' ++ ds
  else
    let whole := first.toNat + 1
    let fraction := ds.drop whole
    ds.take whole ++ List.replicate (whole - ds.length) '0' ++ '.' ::
      (if fraction.isEmpty then ['0'] else fraction)

/-- The digits `ds` of a number whose first digit stands for
`10 ^ first`, one of them before the point, and the exponent. -/
def scientific (ds : List Char) (first : Int) : List Char :=
  let fraction := ds.drop 1
  ds.take 1 ++ (if fraction.isEmpty then [] else '.' :: fraction) ++
    'e' :: (if first < 0 then '-' else '+') :: Nat.toDigits 10 first.natAbs

/-- The text of a double that is not negative. -/
def magnitudeText (x : Binary64) : List Char :=
  if x.isZero then ['0', '.', '0']
  else
    let decimal := x.shortest
    let first := (Nat.toDigits 10 decimal.digits).length - 1 + decimal.place
    let ds := leadingDigits decimal.digits
    if doubleLayout.least ≤ first ∧ first ≤ doubleLayout.greatest then
      positional ds first
    else scientific ds first

/-- The text of a finite double. -/
def doubleText (x : Binary64) : List Char :=
  if x.negative then '-' :: magnitudeText x else magnitudeText x

/-! ## 2. Values -/

/-- The text of a number. -/
def Number.text : Number → List Char
  | .unsigned n => Nat.toDigits 10 n.toNat
  | .negative n _ => '-' :: Nat.toDigits 10 n.toInt.natAbs
  | .double x => doubleText x

/-- A character inside a string. -/
def escapedChar (c : Char) : List Char :=
  match c with
  | '"' => ['\\', '"']
  | '\\' => ['\\', '\\']
  | '\x08' => ['\\', 'b']
  | '\x0c' => ['\\', 'f']
  | '\n' => ['\\', 'n']
  | '\r' => ['\\', 'r']
  | '\t' => ['\\', 't']
  | c =>
    if c.toNat < 0x20 then
      ['\\', 'u', '0', '0', Nat.digitChar (c.toNat / 16), Nat.digitChar (c.toNat % 16)]
    else [c]

/-- The text of a string. -/
def stringText (s : String) : List Char :=
  '"' :: s.toList.flatMap escapedChar ++ ['"']

mutual

/-- The compact text of a value. -/
def text : Json → List Char
  | .null => ['n', 'u', 'l', 'l']
  | .bool true => ['t', 'r', 'u', 'e']
  | .bool false => ['f', 'a', 'l', 's', 'e']
  | .number n => n.text
  | .string s => stringText s
  | .array items => '[' :: itemsText items
  | .object members => '\x7b' :: membersText members

/-- The elements, with a comma between them, and the closing bracket. -/
def itemsText : List Json → List Char
  | [] => [']']
  | item :: rest =>
    text item ++ (if rest.isEmpty then [] else [',']) ++ itemsText rest

/-- The members, with a comma between them, and the closing brace. -/
def membersText : List (String × Json) → List Char
  | [] => ['\x7d']
  | (key, value) :: rest =>
    stringText key ++ ':' :: text value ++ (if rest.isEmpty then [] else [',']) ++ membersText rest

end

/-- The compact text of a value, as a string. -/
def compact (v : Json) : String :=
  String.ofList (text v)

end NodeWatch.Json
