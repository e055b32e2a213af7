/-
# `CrudStack.Toml.Lexeme` — blanks, keys, strings, numbers and dates of TOML 1.0

Each function recognizes something at the head of a text and yields its value with the rest of the
text, or nothing.  That a text is not TOML is all that is ever said about it, so no places are kept.
-/
import CrudStack.Document
import CrudStack.Text.Class
import CrudStack.Text.Digit

namespace CrudStack.Toml

/-! ## Blanks, comments, ends of lines -/

/-- A blank inside a line. -/
def isBlank (c : Char) : Bool := c = ' ' || c = '\t'

/-- Skips the blanks inside a line. -/
def skipBlanks (cs : List Char) : List Char := cs.dropWhile isBlank

/-- A character that may stand in a line: a tab, or no control character. -/
def isPlain (c : Char) : Bool := c = '\t' || (0x20 ≤ c.toNat && c.toNat ≠ 0x7f)

/-- Passes the end of a line; the end of the text ends a line as well. -/
def lineBreakOrEnd? : List Char → Option (List Char)
  | [] => some []
  | '\n' :: rest => some rest
  | '\r' :: '\n' :: rest => some rest
  | _ => none

/-- Passes blanks, a comment if there is one, and the end of the line. -/
def lineEnd? (cs : List Char) : Option (List Char) :=
  match skipBlanks cs with
  | '#' :: rest => lineBreakOrEnd? (rest.dropWhile isPlain)
  | rest => lineBreakOrEnd? rest

/-- Passes blanks, line breaks and comments between the elements of a list.  A comment there ends
with its line. -/
def filler (inComment : Bool) : List Char → Option (List Char)
  | [] => if inComment then none else some []
  | '\n' :: rest => filler false rest
  | '\r' :: '\n' :: rest => filler false rest
  | c :: rest =>
    if inComment then if isPlain c then filler true rest else none
    else if isBlank c then filler false rest
    else if c = '#' then filler true rest
    else if c = '\r' then none
    else some (c :: rest)

/-! ## Strings -/

/-- Reads a number of exactly so many digits of base sixteen. -/
def hexNumber (value : Nat) : Nat → List Char → Option (Nat × List Char)
  | 0, rest => some (value, rest)
  | _ + 1, [] => none
  | n + 1, c :: rest => do hexNumber (value * 16 + (← Text.hexValue? c)) n rest

/-- Reads what follows the backslash of an escape. -/
def escaped : List Char → Option (Char × List Char)
  | 'b' :: rest => some ('\x08', rest)
  | 't' :: rest => some ('\t', rest)
  | 'n' :: rest => some ('\n', rest)
  | 'f' :: rest => some ('\x0c', rest)
  | 'r' :: rest => some ('\r', rest)
  | '"' :: rest => some ('"', rest)
  | '\\' :: rest => some ('\\', rest)
  | 'u' :: rest => do
    let (n, rest) ← hexNumber 0 4 rest
    return (← Text.charOfCode? n, rest)
  | 'U' :: rest => do
    let (n, rest) ← hexNumber 0 8 rest
    return (← Text.charOfCode? n, rest)
  | _ => none

/-- Reads a string in double quotes behind its opening quote. -/
def basicString (fuel : Nat) (read : List Char) (cs : List Char) : Option (String × List Char) :=
  match fuel, cs with
  | 0, _ => none
  | _ + 1, [] => none
  | _ + 1, '"' :: rest => some (String.ofList read.reverse, rest)
  | fuel + 1, '\\' :: rest => do
    let (c, rest) ← escaped rest
    basicString fuel (c :: read) rest
  | fuel + 1, c :: rest => if isPlain c then basicString fuel (c :: read) rest else none

/-- Reads a string in single quotes behind its opening quote. -/
def literalString (read : List Char) : List Char → Option (String × List Char)
  | [] => none
  | '\'' :: rest => some (String.ofList read.reverse, rest)
  | c :: rest => if isPlain c then literalString (c :: read) rest else none

/-- Skips the line break that may follow an opening delimiter of three quotes. -/
def skipFirstBreak : List Char → List Char
  | '\n' :: rest => rest
  | '\r' :: '\n' :: rest => rest
  | cs => cs

/-- Skips blanks and line breaks. -/
def skipBreaks : List Char → List Char
  | '\r' :: '\n' :: rest => skipBreaks rest
  | c :: rest => if isBlank c || c = '\n' then skipBreaks rest else c :: rest
  | [] => []

/-- The rest behind a backslash that ends its line, with the blanks and line breaks that it
swallows. -/
def continued? (cs : List Char) : Option (List Char) :=
  match skipBlanks cs with
  | '\n' :: rest => some (skipBreaks rest)
  | '\r' :: '\n' :: rest => some (skipBreaks rest)
  | _ => none

/-- The end of a string of several lines at three or more quotes: up to two of them belong to the
string, and three close it. -/
def closeLong (quote : Char) (read rest : List Char) : String × List Char :=
  match rest with
  | a :: b :: more =>
    if a = quote ∧ b = quote then (String.ofList (quote :: quote :: read).reverse, more)
    else if a = quote then (String.ofList (quote :: read).reverse, b :: more)
    else (String.ofList read.reverse, rest)
  | [a] =>
    if a = quote then (String.ofList (quote :: read).reverse, [])
    else (String.ofList read.reverse, rest)
  | [] => (String.ofList read.reverse, [])

/-- Reads a string in three double quotes behind its opening delimiter. -/
def longBasicString (fuel : Nat) (read : List Char) (cs : List Char) :
    Option (String × List Char) :=
  match fuel, cs with
  | 0, _ => none
  | _ + 1, '"' :: '"' :: '"' :: rest => some (closeLong '"' read rest)
  | fuel + 1, '\\' :: rest =>
    match continued? rest with
    | some rest => longBasicString fuel read rest
    | none => do
      let (c, rest) ← escaped rest
      longBasicString fuel (c :: read) rest
  | fuel + 1, '\n' :: rest => longBasicString fuel ('\n' :: read) rest
  | fuel + 1, '\r' :: '\n' :: rest => longBasicString fuel ('\n' :: read) rest
  | fuel + 1, c :: rest => if isPlain c then longBasicString fuel (c :: read) rest else none
  | _ + 1, [] => none

/-- Reads a string in three single quotes behind its opening delimiter. -/
def longLiteralString (read : List Char) : List Char → Option (String × List Char)
  | [] => none
  | '\'' :: '\'' :: '\'' :: rest => some (closeLong '\'' read rest)
  | '\n' :: rest => longLiteralString ('\n' :: read) rest
  | '\r' :: '\n' :: rest => longLiteralString ('\n' :: read) rest
  | c :: rest => if isPlain c then longLiteralString (c :: read) rest else none

/-- Reads a string on one line. -/
def shortString : List Char → Option (String × List Char)
  | '"' :: rest => basicString (rest.length + 1) [] rest
  | '\'' :: rest => literalString [] rest
  | _ => none

/-- Reads a string in any of the four spellings. -/
def string : List Char → Option (String × List Char)
  | '"' :: '"' :: '"' :: rest => longBasicString (rest.length + 1) [] (skipFirstBreak rest)
  | '\'' :: '\'' :: '\'' :: rest => longLiteralString [] (skipFirstBreak rest)
  | cs => shortString cs

/-! ## Keys -/

/-- A character of a key without quotes. -/
def isBareKeyChar (c : Char) : Bool := Text.isAsciiAlphanumeric c || c = '-' || c = '_'

/-- Reads one part of a key. -/
def keyPart (cs : List Char) : Option (String × List Char) :=
  match cs with
  | '"' :: _ | '\'' :: _ => shortString cs
  | _ =>
    match cs.span isBareKeyChar with
    | ([], _) => none
    | (part, rest) => some (String.ofList part, rest)

/-- Reads the parts of a key with dots between them, and the blanks around them. -/
def keyParts : Nat → List Char → Option (List String × List Char)
  | 0, _ => none
  | fuel + 1, cs => do
    let (part, rest) ← keyPart (skipBlanks cs)
    match skipBlanks rest with
    | '.' :: rest => do
      let (parts, rest) ← keyParts fuel rest
      return (part :: parts, rest)
    | rest => return ([part], rest)

/-- Parts that a key may have, and one more. -/
def keyLimit : Nat := 80

/-- Reads a key. -/
def key (cs : List Char) : Option (List String × List Char) := do
  let (parts, rest) ← keyParts (cs.length + 1) cs
  if parts.length < keyLimit then return (parts, rest) else none

/-! ## Numbers -/

/-- Reads digits behind a first one; an underscore may stand between two digits. -/
def moreDigits (isDigit : Char → Bool) : List Char → Option (List Char × List Char)
  | [] => some ([], [])
  | '_' :: c :: rest =>
    if isDigit c then do
      let (digits, rest) ← moreDigits isDigit rest
      return (c :: digits, rest)
    else none
  | c :: rest =>
    if isDigit c then do
      let (digits, rest) ← moreDigits isDigit rest
      return (c :: digits, rest)
    else if c = '_' then none
    else some ([], c :: rest)

/-- Reads one or more digits. -/
def digits (isDigit : Char → Bool) : List Char → Option (List Char × List Char)
  | [] => none
  | c :: rest =>
    if isDigit c then do
      let (digits, rest) ← moreDigits isDigit rest
      return (c :: digits, rest)
    else none

/-- The greatest integer, and one more. -/
def integerLimit : Nat := Nat.pow 2 63

/-- Reads an integer of base two, eight or sixteen behind its mark. -/
def markedInteger (base : Nat) (isDigit : Char → Bool) (cs : List Char) :
    Option (Document × List Char) := do
  let (found, rest) ← digits isDigit cs
  let n := Text.digitsValue base found
  if n < integerLimit then return (.integer n, rest) else none

/-- Reads a sign, if there is one. -/
def sign : List Char → Bool × List Char
  | '+' :: rest => (false, rest)
  | '-' :: rest => (true, rest)
  | cs => (false, cs)

/-- Reads the digits before the point; a zero stands alone. -/
def wholeDigits : List Char → Option (List Char × List Char)
  | '0' :: rest => some (['0'], rest)
  | cs => digits Text.isAsciiDigit cs

/-- Reads the exponent of a number behind its mark. -/
def exponent (cs : List Char) : Option (Int × List Char) := do
  let (down, cs) := sign cs
  let (found, rest) ← digits Text.isAsciiDigit cs
  let n : Int := Text.digitsValue 10 found
  return (if down then -n else n, rest)

/-- The double of a decimal; none if it is beyond the greatest one and positive. -/
def doubleOf (negative : Bool) (whole fraction : List Char) (power : Int) : Option Document :=
  let significand := Text.digitsValue 10 (whole ++ fraction)
  let x := Double.ofDecimal negative significand (power - fraction.length)
  if x = .infinite false then none else some (.double x)

/-- The integer of a decimal without point and exponent. -/
def integerOf (negative : Bool) (whole : List Char) : Option Document :=
  let n := Text.digitsValue 10 whole
  if negative then if n ≤ integerLimit then some (.integer (-(n : Int))) else none
  else if n < integerLimit then some (.integer n)
  else none

/-- Reads a decimal number behind its sign. -/
def unsignedDecimal (negative : Bool) (cs : List Char) : Option (Document × List Char) := do
  let (whole, rest) ← wholeDigits cs
  match rest with
  | '.' :: rest =>
    let (fraction, rest) ← digits Text.isAsciiDigit rest
    match rest with
    | 'e' :: rest | 'E' :: rest =>
      let (power, rest) ← exponent rest
      return (← doubleOf negative whole fraction power, rest)
    | _ => return (← doubleOf negative whole fraction 0, rest)
  | 'e' :: rest | 'E' :: rest =>
    let (power, rest) ← exponent rest
    return (← doubleOf negative whole [] power, rest)
  | _ => return (← integerOf negative whole, rest)

/-- Whether a character is a digit of base two. -/
def isBinaryDigit (c : Char) : Bool := c = '0' || c = '1'

/-- Whether a character is a digit of base eight. -/
def isOctalDigit (c : Char) : Bool := 0x30 ≤ c.toNat && c.toNat ≤ 0x37

/-- Reads a number. -/
def number (cs : List Char) : Option (Document × List Char) :=
  match cs with
  | '0' :: 'x' :: rest => markedInteger 16 (fun c => (Text.hexValue? c).isSome) rest
  | '0' :: 'o' :: rest => markedInteger 8 isOctalDigit rest
  | '0' :: 'b' :: rest => markedInteger 2 isBinaryDigit rest
  | _ =>
    let (negative, rest) := sign cs
    match rest with
    | 'i' :: 'n' :: 'f' :: rest => some (.double (.infinite negative), rest)
    | 'n' :: 'a' :: 'n' :: rest => some (.double .nan, rest)
    | _ => unsignedDecimal negative rest

/-! ## Dates and times -/

/-- The entry by which a date or a time is known as such in a document. -/
def dateTimeKey : String := "$__toml_private_datetime"

/-- Reads a number of exactly two digits within bounds. -/
def twoDigits (least greatest : Nat) : List Char → Option (Nat × List Char)
  | a :: b :: rest =>
    if Text.isAsciiDigit a && Text.isAsciiDigit b then
      let n := Text.digitsValue 10 [a, b]
      if least ≤ n ∧ n ≤ greatest then some (n, rest) else none
    else none
  | _ => none

/-- Passes a character. -/
def expect (c : Char) : List Char → Option (List Char)
  | [] => none
  | d :: rest => if c = d then some rest else none

/-- Whether a year has a 29th of February. -/
def isLeapYear (year : Nat) : Bool := year % 4 = 0 && (year % 100 ≠ 0 || year % 400 = 0)

/-- The number of days of a month. -/
def daysInMonth (year month : Nat) : Nat :=
  if month = 2 then if isLeapYear year then 29 else 28
  else if month = 4 ∨ month = 6 ∨ month = 9 ∨ month = 11 then 30
  else 31

/-- Passes a date. -/
def passDate : List Char → Option (List Char)
  | a :: b :: c :: d :: rest =>
    if [a, b, c, d].all Text.isAsciiDigit then do
      let rest ← expect '-' rest
      let (month, rest) ← twoDigits 1 12 rest
      let rest ← expect '-' rest
      let (_, rest) ← twoDigits 1 (daysInMonth (Text.digitsValue 10 [a, b, c, d]) month) rest
      return rest
    else none
  | _ => none

/-- Passes the fraction of a second, if there is one. -/
def passFraction : List Char → List Char
  | '.' :: c :: rest =>
    if Text.isAsciiDigit c then rest.dropWhile Text.isAsciiDigit else '.' :: c :: rest
  | cs => cs

/-- Passes a time. -/
def passTime (cs : List Char) : Option (List Char) := do
  let (_, rest) ← twoDigits 0 23 cs
  let (_, rest) ← twoDigits 0 59 (← expect ':' rest)
  let (_, rest) ← twoDigits 0 60 (← expect ':' rest)
  return passFraction rest

/-- Passes the offset of a time zone. -/
def passOffset (cs : List Char) : Option (List Char) :=
  match cs with
  | 'Z' :: rest | 'z' :: rest => some rest
  | '+' :: rest | '-' :: rest => do
    let (_, rest) ← twoDigits 0 23 rest
    let (_, rest) ← twoDigits 0 59 (← expect ':' rest)
    return rest
  | _ => none

/-- Passes the time behind a date, if there is one. -/
def passTimeOfDate (cs : List Char) : List Char :=
  match cs with
  | d :: rest =>
    if d = 'T' || d = 't' || d = ' ' then
      match passTime rest with
      | some rest => (passOffset rest).getD rest
      | none => cs
    else cs
  | [] => []

/-- Reads a date, a time or both. -/
def dateTime (cs : List Char) : Option (Document × List Char) := do
  let rest ←
    match passDate cs with
    | some rest => some (passTimeOfDate rest)
    | none => passTime cs
  let spelling := cs.take (cs.length - rest.length)
  return (.table [(dateTimeKey, .text (String.ofList spelling))], rest)

end CrudStack.Toml
