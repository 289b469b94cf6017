/-
NodeWatch.Text.Quoted — text between double quotes, every character visible.

The double quote and the backslash stand behind a backslash, four control
characters have a letter of their own, and every other character that
leaves no mark is shown by its number in hexadecimal braces.
-/
import NodeWatch.Text.Hidden

namespace NodeWatch.Text

/-- A character inside a quoted text. -/
def quotedChar (c : Char) : List Char :=
  match c with
  | '\x00' => ['\\', '0']
  | '\t' => ['\\', 't']
  | '\n' => ['\\', 'n']
  | '\r' => ['\\', 'r']
  | '"' => ['\\', '"']
  | '\\' => ['\\', '\\']
  | c =>
    if isHidden c then ['\\', 'u', '\x7b'] ++ Nat.toDigits 16 c.toNat ++ ['\x7d'] else [c]

/-- The text between double quotes. -/
def quoted (s : String) : String :=
  String.ofList ('"' :: s.toList.flatMap quotedChar ++ ['"'])

end NodeWatch.Text
