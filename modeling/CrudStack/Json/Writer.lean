/-
# `CrudStack.Json.Writer` — documents as JSON texts

Documents are written without blanks.  A string is written as it is, but for quotes, backslashes and
control characters.  A double that is not finite has no JSON form and is written as null.
-/
import CrudStack.Document
import CrudStack.Decimal.Text

namespace CrudStack.Json

/-- A control character in four digits of base sixteen. -/
def controlEscape (c : Char) : List Char :=
  let cs := Nat.toDigits 16 c.toNat
  '\\' :: 'u' :: (List.replicate (4 - cs.length) '0' ++ cs)

/-- A character between the quotes of a string. -/
def escapeChar (c : Char) : List Char :=
  if c = '"' then ['\\', '"']
  else if c = '\\' then ['\\', '\\']
  else if c = '\x08' then ['\\', 'b']
  else if c = '\x0c' then ['\\', 'f']
  else if c = '\n' then ['\\', 'n']
  else if c = '\r' then ['\\', 'r']
  else if c = '\t' then ['\\', 't']
  else if c.toNat < 0x20 then controlEscape c
  else [c]

/-- A string with its quotes. -/
def stringChars (s : String) : List Char := '"' :: (s.toList.flatMap escapeChar ++ ['"'])

mutual

/-- The JSON text of a document, as characters. -/
def chars : Document → List Char
  | .null => ['n', 'u', 'l', 'l']
  | .bool b => if b then ['t', 'r', 'u', 'e'] else ['f', 'a', 'l', 's', 'e']
  | .integer i => (toString i).toList
  | .double x => x.scientific.toList
  | .text s => stringChars s
  | .list [] => ['[', ']']
  | .list (first :: rest) => '[' :: (chars first ++ itemChars rest)
  | .table [] => ['\x7b', '\x7d']
  | .table ((key, value) :: rest) =>
    '\x7b' :: (stringChars key ++ ':' :: (chars value ++ entryChars rest))

/-- Further elements of a list, each behind a comma, and its end. -/
def itemChars : List Document → List Char
  | [] => [']']
  | first :: rest => ',' :: (chars first ++ itemChars rest)

/-- Further entries of a table, each behind a comma, and its end. -/
def entryChars : List (String × Document) → List Char
  | [] => ['\x7d']
  | (key, value) :: rest =>
    ',' :: (stringChars key ++ ':' :: (chars value ++ entryChars rest))

end

/-- The JSON text of a document. -/
def write (d : Document) : String := String.ofList (chars d)

end CrudStack.Json
