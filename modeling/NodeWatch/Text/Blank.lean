/-
NodeWatch.Text.Blank — the characters that count as blank, and trimming.

The set is the Unicode property White_Space, which has 25 members.  It
is wider than the blanks of an ASCII reader (a no-break space is in it)
and does not hold the zero-width space.
-/

namespace NodeWatch.Text

/-- The characters with the Unicode property White_Space. -/
def isBlank (c : Char) : Bool :=
  let n := c.toNat
  (0x09 ≤ n && n ≤ 0x0d) || n == 0x20 || n == 0x85 || n == 0xa0 || n == 0x1680
    || (0x2000 ≤ n && n ≤ 0x200a) || n == 0x2028 || n == 0x2029 || n == 0x202f
    || n == 0x205f || n == 0x3000

/-- The text without the blanks at both its ends. -/
def trim (cs : List Char) : List Char :=
  ((cs.dropWhile isBlank).reverse.dropWhile isBlank).reverse

end NodeWatch.Text
