/-
# `CrudStack.Text.Quoted` — texts in quotation marks

Messages show a text in double quotes so that its ends and its invisible characters can be seen.
Quotes and backslashes are escaped, the common controls have short names, and every character that
does not print on its own — a control, an unassigned code point, a separator, a combining mark — is
written by its code point in braces.
-/
import CrudStack.Text.Class
import CrudStack.Text.ClusterTable

namespace CrudStack.Text

/-- Marks that attach to the character before them; skin tones print on their own. -/
def isCombining (c : Char) : Bool :=
  Stretch.anyHas extendStretches c && !(0x1f3fb ≤ c.toNat && c.toNat ≤ 0x1f3ff)

/-- The digits of a number in base sixteen, in lower case. -/
def hexDigits (n : Nat) : List Char := Nat.toDigits 16 n

/-- A character as it stands between double quotes. -/
def quoteChar (c : Char) : List Char :=
  if c = '\x00' then ['\\', '0']
  else if c = '\t' then ['\\', 't']
  else if c = '\r' then ['\\', 'r']
  else if c = '\n' then ['\\', 'n']
  else if c = '\\' then ['\\', '\\']
  else if c = '"' then ['\\', '"']
  else if isCombining c || Stretch.anyHas unprintableStretches c then
    ['\\', 'u', '\x7b'] ++ hexDigits c.toNat ++ ['\x7d']
  else [c]

/-- The text in double quotes. -/
def quote (s : String) : String :=
  String.ofList ('"' :: (s.toList.flatMap quoteChar ++ ['"']))

end CrudStack.Text
