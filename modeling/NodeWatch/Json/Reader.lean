/-
NodeWatch.Json.Reader — JSON text to values, or the first defect in it.

A text is read once, from left to right, and the first defect ends the
reading.  At most 127 brackets and braces may be open at once.

Each function takes from the front of the text and hands on the rest.
Reading is structural: a value on the number of brackets that may still
be opened, a run of elements on the length of the text, of which every
element takes at least one character.
-/
import NodeWatch.Json.StringReader

namespace NodeWatch.Json

/-! ## 1. Blanks and words -/

/-- The characters that may stand between tokens. -/
def isSpace (c : Char) : Bool :=
  c == ' ' || c == '\n' || c == '\t' || c == '\r'

/-- The text from the next token on. -/
def skipSpace (cs : List Char) : List Char :=
  cs.dropWhile isSpace

/-- Take the letters of `word`, which stand for `value`. -/
def readWord (value : Json) : (word : List Char) → List Char → Except Stop (Json × List Char)
  | [], rest => .ok (value, rest)
  | _ :: _, [] => stopBefore .endInValue []
  | w :: word, c :: rest =>
    if c = w then readWord value word rest else stopOn .wordExpected (c :: rest)

/-! ## 2. Lists and objects -/

/-- A reader of one value. -/
abbrev ValueReader := List Char → Except Stop (Json × List Char)

/-- Take the elements behind the first one, and the closing bracket. -/
def readMoreItems (read : ValueReader) :
    (steps : Nat) → List Char → Except Stop (List Json × List Char)
  | 0, rest => stopOn .endInList rest
  | steps + 1, cs =>
    match skipSpace cs with
    | [] => stopOn .endInList []
    | ']' :: rest => .ok ([], rest)
    | ',' :: rest =>
      match skipSpace rest with
      | [] => stopOn .endInValue []
      | ']' :: rest => stopOn .trailingComma (']' :: rest)
      | rest => do
        let (item, rest) ← read rest
        let (items, rest) ← readMoreItems read steps rest
        .ok (item :: items, rest)
    | rest => stopOn .commaOrBracketExpected rest

/-- Take the elements of a list whose opening bracket is taken already. -/
def readItems (read : ValueReader) (cs : List Char) : Except Stop (List Json × List Char) :=
  match skipSpace cs with
  | [] => stopOn .endInList []
  | ']' :: rest => .ok ([], rest)
  | rest => do
    let (item, rest) ← read rest
    let (items, rest) ← readMoreItems read (rest.length + 1) rest
    .ok (item :: items, rest)

/-- Take a key whose opening quote is taken already, the colon, and its
value. -/
def readMember (read : ValueReader) (cs : List Char) :
    Except Stop ((String × Json) × List Char) := do
  let (key, rest) ← readString cs
  match skipSpace rest with
  | [] => stopOn .endInObject []
  | ':' :: rest => do
    let (value, rest) ← read rest
    .ok ((key, value), rest)
  | rest => stopOn .colonExpected rest

/-- Take the members behind the first one, and the closing brace. -/
def readMoreMembers (read : ValueReader) (members : List (String × Json)) :
    (steps : Nat) → List Char → Except Stop (List (String × Json) × List Char)
  | 0, rest => stopOn .endInObject rest
  | steps + 1, cs =>
    match skipSpace cs with
    | [] => stopOn .endInObject []
    | '\x7d' :: rest => .ok (members, rest)
    | ',' :: rest =>
      match skipSpace rest with
      | [] => stopOn .endInValue []
      | '\x7d' :: rest => stopOn .trailingComma ('\x7d' :: rest)
      | '"' :: rest => do
        let ((key, value), rest) ← readMember read rest
        readMoreMembers read (insertMember key value members) steps rest
      | rest => stopOn .keyNotString rest
    | rest => stopOn .commaOrBraceExpected rest

/-- Take the members of an object whose opening brace is taken already. -/
def readMembers (read : ValueReader) (cs : List Char) :
    Except Stop (List (String × Json) × List Char) :=
  match skipSpace cs with
  | [] => stopOn .endInObject []
  | '\x7d' :: rest => .ok ([], rest)
  | '"' :: rest => do
    let ((key, value), rest) ← readMember read rest
    readMoreMembers read [(key, value)] (rest.length + 1) rest
  | rest => stopOn .keyNotString rest

/-! ## 3. Values -/

/-- Take a value in which at most `room` brackets and braces may be open
at once. -/
def readValue : (room : Nat) → List Char → Except Stop (Json × List Char)
  | room, cs =>
    match skipSpace cs with
    | [] => stopOn .endInValue []
    | 'n' :: rest => readWord .null ['u', 'l', 'l'] rest
    | 't' :: rest => readWord (.bool true) ['r', 'u', 'e'] rest
    | 'f' :: rest => readWord (.bool false) ['a', 'l', 's', 'e'] rest
    | '-' :: rest => readNumber true rest
    | '"' :: rest => do
      let (s, rest) ← readString rest
      .ok (.string s, rest)
    | '[' :: rest =>
      match room with
      | 0 => stopOn .tooDeep ('[' :: rest)
      | room + 1 => do
        let (items, rest) ← readItems (readValue room) rest
        .ok (.array items, rest)
    | '\x7b' :: rest =>
      match room with
      | 0 => stopOn .tooDeep ('\x7b' :: rest)
      | room + 1 => do
        let (members, rest) ← readMembers (readValue room) rest
        .ok (.object members, rest)
    | c :: rest =>
      if c.isDigit then readNumber false (c :: rest) else stopOn .valueExpected (c :: rest)

/-- The brackets and braces that may be open at once. -/
def maxDepth : Nat := 127

/-- Take a list, which is all that the text may hold. -/
def readList (cs : List Char) : Except Stop (List Json) :=
  match skipSpace cs with
  | '[' :: rest => do
    let (items, rest) ← readItems (readValue (maxDepth - 1)) rest
    match skipSpace rest with
    | [] => .ok items
    | rest => stopOn .trailingText rest
  | '\x7b' :: rest => stopBefore (.mismatch (.type (.object []) .list)) ('\x7b' :: rest)
  | rest => do
    let (value, rest) ← readValue 0 rest
    stopBefore (.mismatch (.type value .list)) rest

/-- The elements of the list that a text spells, or its first defect. -/
def parseList (text : String) : Except Error (List Json) :=
  let cs := text.toList
  match readList cs with
  | .ok items => .ok items
  | .error stop =>
    let (line, column) := place cs (byteCount cs - stop.left) 1 0
    .error ⟨stop.defect, line, column⟩

end NodeWatch.Json
