/-
# `CrudStack.Text.Case` — full case mapping

The case of a character is a text: `ß` in upper case is `SS`, `İ` in lower case is `i` and a
combining dot.  `lowerChar` and `upperChar` map one character without looking at its neighbours.
`lower` maps a whole text, where one letter depends on its place: a capital sigma that ends a word
becomes `ς`, any other one `σ`.  The place is decided by the cased letters on both sides, passing
over characters such as apostrophes and combining marks.
-/
import CrudStack.Text.CaseTable
import CrudStack.Text.Class

namespace CrudStack.Text

/-- The image of a character under a table of spellings and a table of shifts, itself by default. -/
def caseImage (spellings : List (Nat × List Nat)) (shifts : List Shift) (c : Char) : List Char :=
  match spellings.lookup c.toNat with
  | some codes => codes.map Char.ofNat
  | none =>
    match Shift.find? shifts c.toNat with
    | some code => [Char.ofNat code]
    | none => [c]

/-- The lower case of a character that stands alone. -/
def lowerChar (c : Char) : List Char := caseImage lowerSpellings lowerShifts c

/-- The upper case of a character. -/
def upperChar (c : Char) : List Char := caseImage upperSpellings upperShifts c

/-- Whether the first character that is not passed over is cased. -/
def meetsCased (cs : List Char) : Bool :=
  match cs.dropWhile (Stretch.anyHas caseIgnorableStretches) with
  | [] => false
  | c :: _ => Stretch.anyHas casedStretches c

/-- Lower case of a text whose part before, read backwards, is `before`. -/
def lowerAfter (before : List Char) : List Char → List Char
  | [] => []
  | c :: rest =>
    let image :=
      if c = 'Σ' then [if meetsCased before && !meetsCased rest then 'ς' else 'σ']
      else lowerChar c
    image ++ lowerAfter (c :: before) rest

/-- The lower case of a text. -/
def lowerChars (cs : List Char) : List Char := lowerAfter [] cs

/-- The upper case of a text, which needs no context. -/
def upperChars (cs : List Char) : List Char := cs.flatMap upperChar

/-- The lower case of a text. -/
def lower (s : String) : String := String.ofList (lowerChars s.toList)

/-- The text with its first character in lower case. -/
def lowerFirst (s : String) : String :=
  match s.toList with
  | [] => ""
  | c :: rest => String.ofList (lowerChar c ++ rest)

/-- The text with its first character in upper case. -/
def capitalize (s : String) : String :=
  match s.toList with
  | [] => ""
  | c :: rest => String.ofList (upperChar c ++ rest)

end CrudStack.Text
