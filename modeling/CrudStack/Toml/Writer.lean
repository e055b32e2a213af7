/-
# `CrudStack.Toml.Writer` — documents as TOML texts

A table is written as its own values, a line each, and then its subtables, each below a header with
its path.  A list of nothing but tables is written the same way, with a header for each of them; any
other value is written on the line of its key.  A table with subtables and no values of its own has
no header.

A string is written between double quotes with escapes, and over several lines if it has several.
One with quotes or backslashes is written between single quotes instead, where nothing is escaped,
if it can stand there.
-/
import CrudStack.Decimal.Text
import CrudStack.Document
import CrudStack.Toml.Lexeme

namespace CrudStack.Toml

/-! ## Strings -/

/-- A control character; a tab and a line feed are none. -/
def isRawControl (c : Char) : Bool :=
  (c.toNat < 0x20 && c ≠ '\t' && c ≠ '\n') || c.toNat = 0x7f

/-- Whether three single quotes stand in a row. -/
def hasTripleQuote : List Char → Bool
  | '\'' :: '\'' :: '\'' :: _ => true
  | _ :: rest => hasTripleQuote rest
  | [] => false

/-- Whether a string is written between single quotes. -/
def prefersLiteral (cs : List Char) : Bool :=
  (cs.contains '"' || cs.contains '\\') && !cs.any isRawControl && !hasTripleQuote cs &&
    cs.getLast? ≠ some '\''

/-- A code point in four digits of base sixteen. -/
def codeEscape (c : Char) : List Char :=
  let digits := (Nat.toDigits 16 c.toNat).map Text.asciiUpper
  '\\' :: 'u' :: (List.replicate (4 - digits.length) '0' ++ digits)

/-- A character between double quotes. -/
def escapeChar (c : Char) : List Char :=
  if c = '\x08' then ['\\', 'b']
  else if c = '\t' then ['\\', 't']
  else if c = '\n' then ['\\', 'n']
  else if c = '\x0c' then ['\\', 'f']
  else if c = '\r' then ['\\', 'r']
  else if c = '"' then ['\\', '"']
  else if c = '\\' then ['\\', '\\']
  else if c.toNat < 0x20 || c.toNat = 0x7f then codeEscape c
  else [c]

/-- A character between triple double quotes. -/
def escapeLineChar (c : Char) : List Char := if c = '\n' then ['\n'] else escapeChar c

/-- Three of a quote. -/
def triple (quote : Char) : List Char := [quote, quote, quote]

/-- The text of a string. -/
def stringChars (cs : List Char) : List Char :=
  if prefersLiteral cs then
    if cs.contains '\n' then triple '\'' ++ '\n' :: (cs ++ triple '\'')
    else if cs.contains '\'' then triple '\'' ++ cs ++ triple '\''
    else '\'' :: (cs ++ ['\''])
  else if cs.contains '\n' then
    triple '"' ++ '\n' :: (cs.flatMap escapeLineChar ++ triple '"')
  else '"' :: (cs.flatMap escapeChar ++ ['"'])

/-- The text of a part of a key: as it is if it is bare, and quoted if not. -/
def keyChars (part : String) : List Char :=
  let cs := part.toList
  if !cs.isEmpty && cs.all isBareKeyChar then cs
  else if prefersLiteral cs && !cs.contains '\'' && !cs.contains '\n' then '\'' :: (cs ++ ['\''])
  else '"' :: (cs.flatMap escapeChar ++ ['"'])

/-! ## Values on a line -/

/-- The text of a double. -/
def doubleChars : Double → List Char
  | .nan => ['n', 'a', 'n']
  | .infinite negative => Double.withSign negative ['i', 'n', 'f']
  | x => x.pointed.toList

mutual

/-- The text of a value on a line.  Nothing has no form in TOML and is written as an empty table. -/
def valueChars : Document → List Char
  | .null => ['\x7b', '\x7d']
  | .bool b => (if b then "true" else "false").toList
  | .integer i => (toString i).toList
  | .double x => doubleChars x
  | .text s => stringChars s.toList
  | .list [] => ['[', ']']
  | .list (first :: rest) => '[' :: (valueChars first ++ itemChars rest ++ [']'])
  | .table [] => ['\x7b', '\x7d']
  | .table ((key, value) :: rest) =>
    '\x7b' :: ' ' :: (keyChars key ++ ' ' :: '=' :: ' ' :: (valueChars value ++ entryChars rest ++
      [' ', '\x7d']))

/-- Further elements of a list, each behind a comma. -/
def itemChars : List Document → List Char
  | [] => []
  | first :: rest => ',' :: ' ' :: (valueChars first ++ itemChars rest)

/-- Further entries of an inline table, each behind a comma. -/
def entryChars : List (String × Document) → List Char
  | [] => []
  | (key, value) :: rest =>
    ',' :: ' ' :: (keyChars key ++ ' ' :: '=' :: ' ' :: (valueChars value ++ entryChars rest))

end

/-! ## Tables with headers -/

/-- Whether a document is a table. -/
def isTable : Document → Bool
  | .table _ => true
  | _ => false

/-- Whether a value is written below a header. -/
def hasHeader : Document → Bool
  | .table _ => true
  | .list items => !items.isEmpty && items.all isTable
  | _ => false

/-- A key and its value on a line. -/
def lineChars (entry : String × Document) : List Char :=
  keyChars entry.1 ++ ' ' :: '=' :: ' ' :: (valueChars entry.2 ++ ['\n'])

/-- The lines of a table's own values. -/
def ownLines (entries : List (String × Document)) : List Char :=
  (entries.filter fun e => !hasHeader e.2).flatMap lineChars

/-- The text of a path. -/
def pathChars (path : List String) : List Char := ['.'].intercalate (path.map keyChars)

/-- The block of a table below a path, if it has one. -/
def tableBlock (path : List String) (entries : List (String × Document)) : List (List Char) :=
  let own := ownLines entries
  if own.isEmpty && !entries.isEmpty then []
  else ['[' :: (pathChars path ++ ']' :: '\n' :: own)]

/-- The block of one of several tables below a path. -/
def elementBlock (path : List String) (entries : List (String × Document)) : List Char :=
  '[' :: '[' :: (pathChars path ++ ']' :: ']' :: '\n' :: ownLines entries)

mutual

/-- The blocks below a key: none for a value that stands on a line. -/
def blocks (path : List String) : Document → List (List Char)
  | .table entries => tableBlock path entries ++ entryBlocks path entries
  | .list items =>
    if !items.isEmpty && items.all isTable then elementBlocks path items else []
  | _ => []

/-- The blocks of a table's subtables, in order. -/
def entryBlocks (path : List String) : List (String × Document) → List (List Char)
  | [] => []
  | (key, value) :: rest => blocks (path ++ [key]) value ++ entryBlocks path rest

/-- The blocks of the tables of a list, in order. -/
def elementBlocks (path : List String) : List Document → List (List Char)
  | [] => []
  | .table entries :: rest =>
    elementBlock path entries :: (entryBlocks path entries ++ elementBlocks path rest)
  | _ :: rest => elementBlocks path rest

end

/-- The blocks of a whole text; the values of the root stand above all headers. -/
def rootBlocks (entries : List (String × Document)) : List (List Char) :=
  let own := ownLines entries
  (if own.isEmpty then [] else [own]) ++ entryBlocks [] entries

/-- The TOML text of a table with these entries: its blocks with an empty line between them. -/
def write (entries : List (String × Document)) : String :=
  String.ofList (['\n'].intercalate (rootBlocks entries))

end CrudStack.Toml
