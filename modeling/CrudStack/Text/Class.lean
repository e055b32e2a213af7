/-
# `CrudStack.Text.Class` — character classes and trimming

Core's tests on `Char` know ASCII only, and the rules of this library are about all of Unicode:
which characters trimming removes, which ones a label keeps, where a digit opens a new word.
Each class is one table of `CrudStack.Text.ClassTable` and one predicate here.
-/
import CrudStack.Text.ClassTable

namespace CrudStack.Text

/-- White space. -/
def isBlank (c : Char) : Bool := Stretch.anyHas blankStretches c

/-- A character of category N: a digit of any script, a letter number, a fraction. -/
def isNumeric (c : Char) : Bool := Stretch.anyHas numericStretches c

/-- A letter in the wide sense of the standard, or a numeric character. -/
def isAlphanumeric (c : Char) : Bool := Stretch.anyHas alphabeticStretches c || isNumeric c

/-- A lower case character. -/
def isLowercase (c : Char) : Bool := Stretch.anyHas lowercaseStretches c

/-- An upper case character. -/
def isUppercase (c : Char) : Bool := Stretch.anyHas uppercaseStretches c

/-- Removes white space at both ends. -/
def trimChars (cs : List Char) : List Char :=
  ((cs.dropWhile isBlank).reverse.dropWhile isBlank).reverse

/-- Removes white space at both ends. -/
def trim (s : String) : String := String.ofList (trimChars s.toList)

/-- Blanks that a line of ASCII may hold: space, tab, line feed, form feed, carriage return. -/
def isAsciiBlank (c : Char) : Bool :=
  c = ' ' || c = '\t' || c = '\n' || c = '\x0c' || c = '\r'

/-- A letter or digit of ASCII. -/
def isAsciiAlphanumeric (c : Char) : Bool :=
  let n := c.toNat
  (0x30 ≤ n && n ≤ 0x39) || (0x41 ≤ n && n ≤ 0x5a) || (0x61 ≤ n && n ≤ 0x7a)

/-- A digit of ASCII. -/
def isAsciiDigit (c : Char) : Bool := 0x30 ≤ c.toNat && c.toNat ≤ 0x39

/-- The lower case of the letters A to Z; every other character stays. -/
def asciiLower (c : Char) : Char :=
  if 0x41 ≤ c.toNat && c.toNat ≤ 0x5a then Char.ofNat (c.toNat + 0x20) else c

/-- The upper case of the letters a to z; every other character stays. -/
def asciiUpper (c : Char) : Char :=
  if 0x61 ≤ c.toNat && c.toNat ≤ 0x7a then Char.ofNat (c.toNat - 0x20) else c

end CrudStack.Text
