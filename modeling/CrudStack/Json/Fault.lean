/-
# `CrudStack.Json.Fault` — what is wrong with a JSON text, and where

A fault is placed at an offset, the number of bytes that were consumed when it was noticed.  Lines
and columns are derived from the offset and the text, and only for messages.
-/

namespace CrudStack.Json

/-- The ways in which a text is not JSON. -/
inductive Fault where
  | endInValue
  | endInList
  | endInObject
  | endInString
  | valueExpected
  | keyExpected
  | colonExpected
  | objectCommaExpected
  | listCommaExpected
  | trailingComma
  | trailingCharacters
  | wordExpected
  | invalidNumber
  | numberOutOfRange
  | invalidEscape
  | loneSurrogate
  | unfinishedPair
  | controlCharacter
  | tooDeep
  deriving DecidableEq, Repr

/-- The text of a fault. -/
def Fault.text : Fault → String
  | endInValue => "EOF while parsing a value"
  | endInList => "EOF while parsing a list"
  | endInObject => "EOF while parsing an object"
  | endInString => "EOF while parsing a string"
  | valueExpected => "expected value"
  | keyExpected => "key must be a string"
  | colonExpected => "expected `:`"
  | objectCommaExpected => "expected `,` or `\x7d`"
  | listCommaExpected => "expected `,` or `]`"
  | trailingComma => "trailing comma"
  | trailingCharacters => "trailing characters"
  | wordExpected => "expected ident"
  | invalidNumber => "invalid number"
  | numberOutOfRange => "number out of range"
  | invalidEscape => "invalid escape"
  | loneSurrogate => "lone leading surrogate in hex escape"
  | unfinishedPair => "unexpected end of hex escape"
  | controlCharacter =>
    "control character (\\u0000-\\u001F) found while parsing a string"
  | tooDeep => "recursion limit exceeded"

/-- A cause at an offset of a text. -/
structure Located (Cause : Type) where
  cause : Cause
  offset : Nat
  deriving DecidableEq, Repr

/-- A fault at an offset of a text. -/
abbrev Flaw := Located Fault

/-- Another kind of cause at the same offset. -/
def Located.map {A B : Type} (f : A → B) (l : Located A) : Located B := ⟨f l.cause, l.offset⟩

/-- Line, counted from one, and bytes consumed on it, after `offset` more bytes of a text. -/
def lineColumn (line column : Nat) : Nat → List Char → Nat × Nat
  | 0, _ => (line, column)
  | offset + 1, [] => (line, column + offset + 1)
  | offset + 1, c :: rest =>
    if c = '\n' then lineColumn (line + 1) 0 offset rest
    else if offset + 1 ≤ c.utf8Size then (line, column + offset + 1)
    else lineColumn line (column + c.utf8Size) (offset + 1 - c.utf8Size) rest
  termination_by _ cs => cs.length

/-- The line and the column of a flaw in its text, as messages give them. -/
def placeText (text : String) (offset : Nat) : String :=
  let p := lineColumn 1 0 offset text.toList
  " at line " ++ toString p.1 ++ " column " ++ toString p.2

end CrudStack.Json
