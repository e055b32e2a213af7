/-
# `CrudStack.Settings.Environment` — settings from variables of the environment

A variable with the right prefix, in any case, sets one value.  Its name without the prefix is the
path of the value: two underscores, or a dot, separate the parts, and the case of the letters A to Z
does not matter.  A name with an empty part is ignored.

The text of a variable is read in a small language — truth values, numbers, quoted strings, lists in
brackets and tables in braces — and whatever does not fit that language is a plain string.
-/
import CrudStack.Settings.Tree
import CrudStack.Text.Class
import CrudStack.Text.Digit

namespace CrudStack.Settings.Environment

/-! ## Names -/

/-- The prefix of variables that set a value. -/
def namePrefix : List Char := ['O', 'V', 'E', 'L', 'H', 'A', '_']

/-- The rest of a name behind the prefix, in whatever case that is written. -/
def afterPrefix? : List Char → List Char → Option (List Char)
  | [], rest => some rest
  | _ :: _, [] => none
  | p :: more, c :: rest =>
    if Text.asciiLower p = Text.asciiLower c then afterPrefix? more rest else none

/-- Replaces each pair of underscores by a dot. -/
def dotted : List Char → List Char
  | '_' :: '_' :: rest => '.' :: dotted rest
  | c :: rest => c :: dotted rest
  | [] => []

/-- The path that a variable sets, if it sets one. -/
def path? (name : String) : Option (List String) := do
  let rest ← afterPrefix? namePrefix name.toList
  let parts := (Text.trimChars (dotted rest)).splitOn '.'
  if parts.any (·.isEmpty) then none
  else return parts.map fun part => String.ofList (part.map Text.asciiLower)

/-! ## Strings -/

/-- The character of the code point that digits of base sixteen write. -/
def codeChar? (digits : List Char) : Option Char := do
  Text.charOfCode? (← digits.foldlM (fun n c => do return n * 16 + (← Text.hexValue? c)) 0)

/-- What a quoted string says: its escapes are resolved, and a control character other than a tab is
refused. -/
def unescape (fuel : Nat) (cs : List Char) : Option (List Char) :=
  match fuel, cs with
  | 0, _ => none
  | _ + 1, [] => some []
  | fuel + 1, '\\' :: c :: rest =>
    match c with
    | '"' => do return '"' :: (← unescape fuel rest)
    | '\\' => do return '\\' :: (← unescape fuel rest)
    | 'b' => do return '\x08' :: (← unescape fuel rest)
    | 'f' => do return '\x0c' :: (← unescape fuel rest)
    | 'n' => do return '\n' :: (← unescape fuel rest)
    | 'r' => do return '\r' :: (← unescape fuel rest)
    | 't' => do return '\t' :: (← unescape fuel rest)
    | 'u' =>
      if rest.length < 4 then none
      else do return (← codeChar? (rest.take 4)) :: (← unescape fuel (rest.drop 4))
    | 'U' =>
      if rest.length < 8 then none
      else do return (← codeChar? (rest.take 8)) :: (← unescape fuel (rest.drop 8))
    | _ => none
  | _ + 1, ['\\'] => none
  | fuel + 1, c :: rest =>
    if c = '\t' || (0x20 ≤ c.toNat && c.toNat ≠ 0x7f) then do
      return c :: (← unescape fuel rest)
    else none

/-- The text up to the closing quote; a backslash protects the character behind it. -/
def quotedPart (isEscaped : Bool) : List Char → Option (List Char × List Char)
  | [] => none
  | c :: rest =>
    if !isEscaped && c = '"' then some ([], rest)
    else do
      let (part, rest) ← quotedPart (!isEscaped && c = '\\') rest
      return (c :: part, rest)

/-- Reads a quoted string behind its opening quote. -/
def quoted (cs : List Char) : Option (String × List Char) := do
  let (part, rest) ← quotedPart false cs
  return (String.ofList (← unescape (part.length + 1) part), rest)

/-! ## Numbers -/

/-- The number that decimal digits write, if there is at least one and nothing else. -/
def natOf? (cs : List Char) : Option Nat :=
  if cs.isEmpty || !cs.all Text.isAsciiDigit then none
  else some (Text.digitsValue 10 cs)

/-- A sign and what follows it. -/
def signOf : List Char → Bool × List Char
  | '+' :: rest => (false, rest)
  | '-' :: rest => (true, rest)
  | cs => (false, cs)

/-- An integer of 64 bits: without sign or with a plus up to the greatest one, with a minus down to
the least one. -/
def integerOf? (cs : List Char) : Option Leaf := do
  let (negative, digits) := signOf cs
  let n ← natOf? digits
  if negative then if n ≤ Nat.pow 2 63 then return .signed (-(n : Int)) else none
  else if n < Nat.pow 2 64 then return .unsigned n else none

/-- The exponent of a decimal: nothing, or a mark and a number. -/
def exponentOf? : List Char → Option Int
  | [] => some 0
  | c :: rest =>
    if c = 'e' || c = 'E' then do
      let (negative, digits) := signOf rest
      let n : Int ← natOf? digits
      return if negative then -n else n
    else none

/-- The double of a decimal with a point. -/
def doubleOf? (cs : List Char) : Option Double := do
  let (negative, rest) := signOf cs
  let (whole, rest) := rest.span Text.isAsciiDigit
  match rest with
  | '.' :: rest =>
    let (fraction, rest) := rest.span Text.isAsciiDigit
    let power ← exponentOf? rest
    let digits ← natOf? (whole ++ fraction)
    return .ofDecimal negative digits (power - fraction.length)
  | _ => none

/-- What a text without quotes says. -/
def plainOf (cs : List Char) : Leaf :=
  match (if cs.contains '.' then doubleOf? cs else none) with
  | some x => .double x
  | none => (integerOf? cs).getD (.text (String.ofList cs))

/-! ## Values -/

/-- Skips blanks. -/
def skipBlanks (cs : List Char) : List Char := cs.dropWhile Text.isAsciiBlank

/-- A character that ends a text without quotes. -/
def isSeparator (c : Char) : Bool := [',', '\x7b', '\x7d', '[', ']'].contains c

/-- Reads the name of an entry. -/
def entryName (cs : List Char) : Option (String × List Char) :=
  match cs with
  | '"' :: rest => quoted rest
  | _ =>
    match cs.span fun c => Text.isAsciiAlphanumeric c || c = '_' || c = '-' with
    | ([], _) => none
    | (name, rest) => some (String.ofList name, rest)

/-- Reads a single value. -/
def scalar (cs : List Char) : Option (Leaf × List Char) :=
  match cs with
  | 't' :: 'r' :: 'u' :: 'e' :: rest => some (.bool true, rest)
  | 'f' :: 'a' :: 'l' :: 's' :: 'e' :: rest => some (.bool false, rest)
  | '"' :: rest => (quoted rest).map fun r => (.text r.1, r.2)
  | '\'' :: c :: '\'' :: rest => some (.letter c, rest)
  | '\'' :: _ => none
  | _ =>
    let (part, rest) := cs.span fun c => !isSeparator c
    some (plainOf (Text.trimChars part), rest)

mutual

/-- Reads a value and the blanks around it. -/
def value : Nat → List Char → Option (Tree × List Char)
  | 0, _ => none
  | fuel + 1, cs => do
    let (found, rest) ←
      match skipBlanks cs with
      | '[' :: rest => do
        let (items, rest) ← listItems fuel rest
        pure (.list .environment items, rest)
      | '\x7b' :: rest => do
        let (entries, rest) ← tableEntries fuel rest
        pure (.table .environment entries, rest)
      | cs => do
        let (leaf, rest) ← scalar cs
        pure (.leaf .environment leaf, rest)
    return (found, skipBlanks rest)

/-- Reads the rest of a list. -/
def listItems : Nat → List Char → Option (List Tree × List Char)
  | 0, _ => none
  | _ + 1, ']' :: rest => some ([], rest)
  | fuel + 1, cs => do
    let (first, rest) ← value fuel cs
    match rest with
    | ',' :: rest =>
      let (others, rest) ← listItems fuel rest
      return (first :: others, rest)
    | ']' :: rest => return ([first], rest)
    | _ => none

/-- Reads the rest of a table.  Of two entries with one name the later one counts. -/
def tableEntries : Nat → List Char → Option (List (String × Tree) × List Char)
  | 0, _ => none
  | _ + 1, '\x7d' :: rest => some ([], rest)
  | fuel + 1, cs => do
    let (name, rest) ← entryName (skipBlanks cs)
    match skipBlanks rest with
    | '=' :: rest =>
      let (first, rest) ← value fuel rest
      match rest with
      | ',' :: rest =>
        let (others, rest) ← tableEntries fuel rest
        return (if (others.lookup name).isSome then others else Tree.place name first others, rest)
      | '\x7d' :: rest => return ([(name, first)], rest)
      | _ => none
    | _ => none

end

/-- What the text of a variable says. -/
def valueOf (text : String) : Tree :=
  let cs := text.toList
  match value (2 * cs.length + 2) cs with
  | some (found, []) => found
  | _ => .leaf .environment (.text text)

/-! ## The layer of the environment -/

/-- A value below a path of tables. -/
def nest (value : Tree) : List String → Tree
  | [] => value
  | part :: parts => .table .environment [(part, nest value parts)]

/-- The layer that variables make up; a later one counts more. -/
def layer (environment : List (String × String)) : Tree :=
  environment.foldl
    (fun tree v =>
      match path? v.1 with
      | some path => tree.mergeInto (nest (valueOf v.2) path)
      | none => tree)
    (.table .environment [])

end CrudStack.Settings.Environment
