/-
# `CrudStack.Toml.Parse` — documents from TOML texts

A text is first read into its pairs and sections, and then assembled.  `parse` yields nothing if the
text is not TOML 1.0: a syntax error, a key that is defined twice or extended where it may not be,
an integer beyond 64 bits, or nesting that is too deep.  The entries of a table stand in the order
of the text.
-/
import CrudStack.Toml.Assembly
import CrudStack.Toml.Lexeme

namespace CrudStack.Toml

/-! ## Values -/

/-- What reads a value at the head of a text. -/
abbrev Reader := List Char → Option (Document × List Char)

/-- Reads the rest of a list. -/
def listItems (element : Reader) : Nat → List Char → Option (List Document × List Char)
  | 0, _ => none
  | fuel + 1, cs => do
    match ← filler false cs with
    | ']' :: rest => return ([], rest)
    | cs =>
      let (first, rest) ← element cs
      match ← filler false rest with
      | ',' :: rest =>
        let (others, rest) ← listItems element fuel rest
        return (first :: others, rest)
      | ']' :: rest => return ([first], rest)
      | _ => none

/-- Reads a key, an equals sign and a value. -/
def pair (element : Reader) (cs : List Char) : Option ((List String × Document) × List Char) := do
  let (path, rest) ← key cs
  let rest ← expect '=' rest
  let (value, rest) ← element (skipBlanks rest)
  return ((path, value), rest)

/-- Reads the rest of an inline table behind a pair or a comma. -/
def inlinePairs (element : Reader) :
    Nat → List Char → Option (List (List String × Document) × List Char)
  | 0, _ => none
  | fuel + 1, cs => do
    let (first, rest) ← pair element cs
    match skipBlanks rest with
    | ',' :: rest =>
      let (others, rest) ← inlinePairs element fuel rest
      return (first :: others, rest)
    | '\x7d' :: rest => return ([first], rest)
    | _ => none

/-- Reads an inline table behind its brace. -/
def inlineTable (element : Reader) (cs : List Char) : Option (Document × List Char) :=
  match skipBlanks cs with
  | '\x7d' :: rest => some (.table [], rest)
  | cs => do
    let (pairs, rest) ← inlinePairs element (cs.length + 1) cs
    return (← tableOfPairs pairs, rest)

/-- Reads a value that is no list and no table. -/
def scalar : Reader
  | 't' :: 'r' :: 'u' :: 'e' :: rest => some (.bool true, rest)
  | 'f' :: 'a' :: 'l' :: 's' :: 'e' :: rest => some (.bool false, rest)
  | '"' :: rest => (string ('"' :: rest)).map fun r => (.text r.1, r.2)
  | '\'' :: rest => (string ('\'' :: rest)).map fun r => (.text r.1, r.2)
  | cs =>
    match dateTime cs with
    | some found => some found
    | none => number cs

/-- Reads a value with so many levels of lists and inline tables left. -/
def value : Nat → Reader
  | 0, cs =>
    match cs with
    | '[' :: _ | '\x7b' :: _ => none
    | _ => scalar cs
  | levels + 1, cs =>
    match cs with
    | '[' :: rest => do
      let (items, rest) ← listItems (value levels) (rest.length + 1) rest
      return (.list items, rest)
    | '\x7b' :: rest => inlineTable (value levels) rest
    | _ => scalar cs

/-- Levels of lists and inline tables that a value may have. -/
def levelLimit : Nat := 79

/-! ## Statements -/

/-- A statement of a text. -/
inductive Statement where
  | header (isElement : Bool) (path : List String)
  | pair (path : List String) (value : Document)

/-- Reads a header behind its first bracket. -/
def header (cs : List Char) : Option (Statement × List Char) :=
  match cs with
  | '[' :: rest => do
    let (path, rest) ← key rest
    let rest ← expect ']' (← expect ']' rest)
    return (.header true path, rest)
  | _ => do
    let (path, rest) ← key cs
    return (.header false path, ← expect ']' rest)

/-- Reads all statements, each on lines of its own. -/
def statements : Nat → List Char → Option (List Statement)
  | 0, _ => none
  | fuel + 1, cs =>
    match skipBlanks cs with
    | [] => some []
    | '#' :: rest => do statements fuel (← lineBreakOrEnd? (rest.dropWhile isPlain))
    | '\n' :: rest => statements fuel rest
    | '\r' :: '\n' :: rest => statements fuel rest
    | '[' :: rest => do
      let (first, rest) ← header rest
      let others ← statements fuel (← lineEnd? rest)
      return first :: others
    | cs => do
      let (p, rest) ← pair (value levelLimit) cs
      let others ← statements fuel (← lineEnd? rest)
      return .pair p.1 p.2 :: others

/-- The pairs before the first header, and the sections. -/
def sectionsOf : List Statement → List (List String × Document) × List Section
  | [] => ([], [])
  | .pair path value :: rest =>
    let (pairs, sections) := sectionsOf rest
    ((path, value) :: pairs, sections)
  | .header isElement path :: rest =>
    let (pairs, sections) := sectionsOf rest
    ([], ⟨isElement, path, pairs⟩ :: sections)

/-- Skips a byte order mark. -/
def skipMark : List Char → List Char
  | '\ufeff' :: rest => rest
  | cs => cs

/-- Reads a text. -/
def parse (text : String) : Option Document := do
  let cs := skipMark text.toList
  let (pairs, sections) := sectionsOf (← statements (cs.length + 1) cs)
  assemble pairs sections

end CrudStack.Toml
