/-
# `CrudStack.Proofs.Json.Grammar` — JSON values and the texts that spell them

A value is what a JSON text says, whoever reads it: members in their order and repeated ones kept,
strings without their escapes, and numbers digit by digit, because what a number is worth is a
question for the reader.  `Value.Spelled` gives the texts of a value: blanks between the tokens, any
escape that denotes a character, either letter before an exponent, a sign that may be left out.

The grammar is written by recursion on the value.  What stands between the brackets of a list or an
object is a first element and then a *tail*, in which a comma comes before every element.
-/
import CrudStack.Json.Lexeme

namespace CrudStack.Json

/-! ## Numbers -/

/-- A number digit by digit: its sign, the digits before and behind the point, and those of the
exponent with its direction. -/
structure Literal where
  negative : Bool
  whole : List Char
  fraction : Option (List Char)
  exponent : Option (Bool × List Char)
  deriving DecidableEq, Repr

/-- Digits, at least one. -/
def IsDigits (ds : List Char) : Prop := ds ≠ [] ∧ ds.all Text.isAsciiDigit = true

/-- The texts of an exponent. -/
inductive ExponentSpelled : Option (Bool × List Char) → List Char → Prop
  | absent : ExponentSpelled none []
  | unsigned {e : Char} {ds : List Char} : e = 'e' ∨ e = 'E' →
      ExponentSpelled (some (false, ds)) (e :: ds)
  | up {e : Char} {ds : List Char} : e = 'e' ∨ e = 'E' →
      ExponentSpelled (some (false, ds)) (e :: '+' :: ds)
  | down {e : Char} {ds : List Char} : e = 'e' ∨ e = 'E' →
      ExponentSpelled (some (true, ds)) (e :: '-' :: ds)

namespace Literal

/-- No part that is there is empty, and only the number zero begins with a zero. -/
structure WellFormed (l : Literal) : Prop where
  whole : IsDigits l.whole
  leading : l.whole.head? = some '0' → l.whole = ['0']
  fraction : ∀ ds, l.fraction = some ds → IsDigits ds
  exponent : ∀ down ds, l.exponent = some (down, ds) → IsDigits ds

/-- The text of a sign. -/
def signText (negative : Bool) : List Char := if negative then ['-'] else []

/-- The text of a fraction. -/
def fractionText : Option (List Char) → List Char
  | none => []
  | some ds => '.' :: ds

/-- The texts of a number. -/
def Spelled (l : Literal) (cs : List Char) : Prop :=
  l.WellFormed ∧ ∃ tail, ExponentSpelled l.exponent tail ∧
    cs = signText l.negative ++ (l.whole ++ (fractionText l.fraction ++ tail))

/-- A number without point and exponent. -/
def IsWhole (l : Literal) : Prop := l.fraction = none ∧ l.exponent = none

/-- The natural number of some digits. -/
def natural (ds : List Char) : Nat := ds.foldl (fun n c => n * 10 + digitValue c) 0

/-- What a number without point and exponent says. -/
def integer (l : Literal) : Int := if l.negative then -(natural l.whole) else natural l.whole

end Literal

/-! ## Strings -/

/-- The texts of characters inside a string.  Halves of surrogate pairs are no characters: they come
in pairs only. -/
inductive CharsSpelled : List Char → List Char → Prop
  | nil : CharsSpelled [] []
  | plain {c : Char} {cs body : List Char} : c ≠ '"' → c ≠ '\\' → 0x20 ≤ c.toNat →
      CharsSpelled cs body → CharsSpelled (c :: cs) (c :: body)
  | short {c e : Char} {cs body : List Char} : shortEscape? e = some c →
      CharsSpelled cs body → CharsSpelled (c :: cs) ('\\' :: e :: body)
  | code {a b c d : Char} {n : Nat} {cs body : List Char} : hexFour? a b c d = some n →
      isLeading n = false → isTrailing n = false →
      CharsSpelled cs body →
      CharsSpelled (Char.ofNat n :: cs) ('\\' :: 'u' :: a :: b :: c :: d :: body)
  | pair {a b c d e f g h : Char} {lead trail : Nat} {cs body : List Char} :
      hexFour? a b c d = some lead → isLeading lead = true →
      hexFour? e f g h = some trail → isTrailing trail = true →
      CharsSpelled cs body → CharsSpelled (pairChar lead trail :: cs)
        ('\\' :: 'u' :: a :: b :: c :: d :: '\\' :: 'u' :: e :: f :: g :: h :: body)

/-- The texts of a string, with its quotes. -/
def StringSpelled (s : String) (cs : List Char) : Prop :=
  ∃ body, CharsSpelled s.toList body ∧ cs = '"' :: (body ++ ['"'])

/-! ## Values -/

/-- What a JSON text says. -/
inductive Value where
  | null
  | bool (value : Bool)
  | number (literal : Literal)
  | text (value : String)
  | list (items : List Value)
  | object (members : List (String × Value))
  deriving Repr

/-- A text of nothing but blanks. -/
def Blanks (cs : List Char) : Prop := cs.all isBlank = true

/-- A text with blanks around it. -/
def Padded (spelled : List Char → Prop) (cs : List Char) : Prop :=
  ∃ before own after, Blanks before ∧ spelled own ∧ Blanks after ∧ cs = before ++ (own ++ after)

/-- The texts of a member: its key, a colon and its value. -/
def EntrySpelled (key : String) (spelled : List Char → Prop) (cs : List Char) : Prop :=
  ∃ before quoted after own, Blanks before ∧ StringSpelled key quoted ∧ Blanks after ∧
    Padded spelled own ∧ cs = before ++ (quoted ++ (after ++ ':' :: own))

mutual

/-- The texts of a value, without blanks around it. -/
def Value.Spelled : Value → List Char → Prop
  | .null, cs => cs = "null".toList
  | .bool true, cs => cs = "true".toList
  | .bool false, cs => cs = "false".toList
  | .number l, cs => l.Spelled cs
  | .text s, cs => StringSpelled s cs
  | .list [], cs => ∃ inside, Blanks inside ∧ cs = '[' :: (inside ++ [']'])
  | .list (v :: vs), cs => ∃ own tail, Padded v.Spelled own ∧ ItemsSpelled vs tail ∧
      cs = '[' :: (own ++ (tail ++ [']']))
  | .object [], cs => ∃ inside, Blanks inside ∧ cs = '\x7b' :: (inside ++ ['\x7d'])
  | .object ((key, v) :: ms), cs => ∃ own tail, EntrySpelled key v.Spelled own ∧
      MembersSpelled ms tail ∧ cs = '\x7b' :: (own ++ (tail ++ ['\x7d']))

/-- The texts of the elements of a list behind its first one. -/
def ItemsSpelled : List Value → List Char → Prop
  | [], cs => cs = []
  | v :: vs, cs => ∃ own tail, Padded v.Spelled own ∧ ItemsSpelled vs tail ∧
      cs = ',' :: (own ++ tail)

/-- The texts of the members of an object behind its first one. -/
def MembersSpelled : List (String × Value) → List Char → Prop
  | [], cs => cs = []
  | (key, v) :: ms, cs => ∃ own tail, EntrySpelled key v.Spelled own ∧ MembersSpelled ms tail ∧
      cs = ',' :: (own ++ tail)

end

/-- A text is JSON, and this is what it says. -/
def Value.IsTextOf (v : Value) (text : String) : Prop := Padded v.Spelled text.toList

/-! ## What is in a value -/

mutual

/-- The levels of lists and objects of a value. -/
def Value.depth : Value → Nat
  | .list vs => itemsDepth vs + 1
  | .object ms => membersDepth ms + 1
  | _ => 0

/-- The levels of the deepest element. -/
def itemsDepth : List Value → Nat
  | [] => 0
  | v :: vs => max v.depth (itemsDepth vs)

/-- The levels of the deepest member. -/
def membersDepth : List (String × Value) → Nat
  | [] => 0
  | (_, v) :: ms => max v.depth (membersDepth ms)

end

mutual

/-- The numbers of a value, however deep they are. -/
def Value.numbers : Value → List Literal
  | .number l => [l]
  | .list vs => itemsNumbers vs
  | .object ms => membersNumbers ms
  | _ => []

/-- The numbers of some elements. -/
def itemsNumbers : List Value → List Literal
  | [] => []
  | v :: vs => v.numbers ++ itemsNumbers vs

/-- The numbers of some members. -/
def membersNumbers : List (String × Value) → List Literal
  | [] => []
  | (_, v) :: ms => v.numbers ++ membersNumbers ms

end

mutual

/-- No object of a value has two members of one name. -/
def Value.DistinctKeys : Value → Prop
  | .list vs => ItemsDistinctKeys vs
  | .object ms => (ms.map (·.1)).Nodup ∧ MembersDistinctKeys ms
  | _ => True

/-- The same for some elements. -/
def ItemsDistinctKeys : List Value → Prop
  | [] => True
  | v :: vs => v.DistinctKeys ∧ ItemsDistinctKeys vs

/-- The same for some members. -/
def MembersDistinctKeys : List (String × Value) → Prop
  | [] => True
  | (_, v) :: ms => v.DistinctKeys ∧ MembersDistinctKeys ms

end

end CrudStack.Json
