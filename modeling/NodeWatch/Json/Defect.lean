/-
NodeWatch.Json.Defect — what can be wrong with a JSON text, and where.

Where a defect stands is told in bytes: some defects are noticed on the
byte that is wrong (and point just behind it, though never behind the
end), the others behind what has just been taken.  A stopped reading
keeps the number of bytes that lie behind the place; line and column are
worked out from the whole text and that number alone.
-/
import NodeWatch.Json.Conversion

namespace NodeWatch.Json

/-- What can be wrong with a JSON text. -/
inductive Defect where
  | endInList
  | endInObject
  | endInString
  | endInValue
  | colonExpected
  | commaOrBracketExpected
  | commaOrBraceExpected
  | wordExpected
  | valueExpected
  | unknownEscape
  | malformedNumber
  | numberOutOfRange
  | loneSurrogate
  | halfSurrogatePair
  | controlCharacter
  | keyNotString
  | trailingComma
  | trailingText
  | tooDeep
  | mismatch (m : Mismatch)

/-- The text under which a defect is reported, without its place. -/
def Defect.message : Defect → String
  | .endInList => "EOF while parsing a list"
  | .endInObject => "EOF while parsing an object"
  | .endInString => "EOF while parsing a string"
  | .endInValue => "EOF while parsing a value"
  | .colonExpected => "expected `:`"
  | .commaOrBracketExpected => "expected `,` or `]`"
  | .commaOrBraceExpected => "expected `,` or `\x7d`"
  | .wordExpected => "expected ident"
  | .valueExpected => "expected value"
  | .unknownEscape => "invalid escape"
  | .malformedNumber => "invalid number"
  | .numberOutOfRange => "number out of range"
  | .loneSurrogate => "lone leading surrogate in hex escape"
  | .halfSurrogatePair => "unexpected end of hex escape"
  | .controlCharacter => "control character (\\u0000-\\u001F) found while parsing a string"
  | .keyNotString => "key must be a string"
  | .trailingComma => "trailing comma"
  | .trailingText => "trailing characters"
  | .tooDeep => "recursion limit exceeded"
  | .mismatch m => m.message

/-- A defect and its place in the text. -/
structure Error where
  defect : Defect
  line : Nat
  column : Nat

/-- The text under which an error is reported. -/
def Error.message (e : Error) : String :=
  e.defect.message ++ " at line " ++ Text.ofNat e.line ++ " column " ++ Text.ofNat e.column

/-- A reading that has stopped: the defect, and how many bytes of the
text lie behind its place. -/
structure Stop where
  defect : Defect
  left : Nat

/-- The number of bytes of a text in UTF-8. -/
def byteCount (cs : List Char) : Nat :=
  cs.foldl (fun bytes c => bytes + c.utf8Size) 0

/-- Stop with `rest` not yet taken. -/
def stopBefore {α : Type} (defect : Defect) (rest : List Char) : Except Stop α :=
  .error ⟨defect, byteCount rest⟩

/-- Stop one byte into `rest`, or at its end if it is empty. -/
def stopOn {α : Type} (defect : Defect) (rest : List Char) : Except Stop α :=
  .error ⟨defect, byteCount rest - 1⟩

/-- Line and column of a byte offset: the line counts from one, the
column counts the bytes since the line began. -/
def place : (text : List Char) → (offset line column : Nat) → Nat × Nat
  | [], _, line, column => (line, column)
  | c :: rest, offset, line, column =>
    if offset < c.utf8Size then (line, column + offset)
    else if c = '\n' then place rest (offset - 1) (line + 1) 0
    else place rest (offset - c.utf8Size) line (column + c.utf8Size)

end NodeWatch.Json
