/-
NodeWatch.Text.Numeral — decimal literals of natural and signed numbers.

A literal is a run of one or more ASCII digits.  An unsigned literal may
begin with a plus, a signed one with a plus or a minus.  Leading zeros
are allowed; a value outside the range asked for is no literal.  Blanks
are the caller's business (`Text.trim`).
-/
import NodeWatch.Word

namespace NodeWatch.Text

/-- The value of a run of one or more digits. -/
def natural? (cs : List Char) : Option Nat :=
  if cs ≠ [] ∧ cs.all Char.isDigit then some (Nat.ofDigitChars 10 cs 0) else none

/-- The value of an unsigned literal below `limit`. -/
def unsigned? (limit : Nat) (cs : List Char) : Option Nat :=
  let digits := match cs with
    | '+' :: rest => rest
    | _ => cs
  (natural? digits).filter (· < limit)

/-- The value of a signed literal that fits a signed word. -/
def signed? (cs : List Char) : Option Int64 :=
  let value : Option Int := match cs with
    | '+' :: rest => (natural? rest).map Int.ofNat
    | '-' :: rest => (natural? rest).map fun n => -(n : Int)
    | _ => (natural? cs).map Int.ofNat
  (value.filter fun n => decide (Word.FitsSigned n)).map Int64.ofInt

/-- A natural number in decimal digits. -/
def ofNat (n : Nat) : String :=
  String.ofList (Nat.toDigits 10 n)

/-- An integer in decimal digits, after a minus if it is below zero. -/
def ofInt (n : Int) : String :=
  if n < 0 then "-" ++ ofNat n.natAbs else ofNat n.natAbs

/-- The digits of a number are a literal of it. -/
theorem natural?_toDigits (n : Nat) : natural? (Nat.toDigits 10 n) = some n := by
  unfold natural?
  have digits : (Nat.toDigits 10 n).all Char.isDigit = true :=
    List.all_eq_true.2 fun c h => Nat.isDigit_of_mem_toDigits (by decide) (by decide) h
  have inhabited : Nat.toDigits 10 n ≠ [] := Nat.toDigits_ne_nil
  rw [if_pos ⟨inhabited, digits⟩, Nat.ofDigitChars_toDigits (by decide) (by decide)]

end NodeWatch.Text
