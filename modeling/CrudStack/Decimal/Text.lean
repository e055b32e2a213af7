/-
# `CrudStack.Decimal.Text` — how numbers are written

Three writings of a double, all of its shortest digits:

* `plain` — always positional; a whole number has no point (`8080`, `1.5`, `-0`, `inf`, `NaN`);
* `pointed` — as `plain`, but never without a point (`100.0`);
* `scientific` — positional with a point for decimal exponents from -5 to 15, otherwise with a
  signed exponent of at least two digits (`1.5`, `100.0`, `1.2e+29`).
-/
import CrudStack.Decimal.Shortest

namespace CrudStack.Double

/-- A natural number in base ten. -/
def digitsOf (n : Nat) : List Char := Nat.toDigits 10 n

/-- Zeros. -/
def zeros (n : Nat) : List Char := List.replicate n '0'

/-- Digits with a point after the first `position` of them, filled with zeros on the side where
digits are missing.  No point is written if no digit follows it. -/
def placePoint (digits : List Char) (position : Int) : List Char :=
  if position ≤ 0 then '0' :: '.' :: (zeros (-position).toNat ++ digits)
  else
    let before := position.toNat
    if digits.length ≤ before then digits ++ zeros (before - digits.length)
    else digits.take before ++ '.' :: digits.drop before

/-- The text with a sign in front. -/
def withSign (negative : Bool) (cs : List Char) : List Char :=
  if negative then '-' :: cs else cs

/-- The digits of a finite double and the place of its point. -/
def digitsAndPoint (significand : Nat) (exponent : Int) : List Char × Int :=
  if significand = 0 then (['0'], 1)
  else
    let d := shortest significand exponent
    let cs := digitsOf d.1
    (cs, cs.length + d.2)

/-- A double in positional writing. -/
def plainChars : Double → List Char
  | .finite negative significand exponent =>
    let d := digitsAndPoint significand exponent
    withSign negative (placePoint d.1 d.2)
  | .infinite negative => withSign negative ['i', 'n', 'f']
  | .nan => ['N', 'a', 'N']

/-- Adds `.0` to a text without a point. -/
def ensurePoint (cs : List Char) : List Char :=
  if cs.contains '.' then cs else cs ++ ['.', '0']

/-- Positional, without a point for whole numbers. -/
def plain (x : Double) : String := String.ofList x.plainChars

/-- Positional, always with a point. -/
def pointed (x : Double) : String := String.ofList (ensurePoint x.plainChars)

/-- A signed exponent of at least two digits. -/
def exponentChars (e : Int) : List Char :=
  let cs := digitsOf e.natAbs
  'e' :: (if e < 0 then '-' else '+') :: (zeros (2 - cs.length) ++ cs)

/-- Positional with a point near one, with an exponent far from it. -/
def scientific : Double → String
  | .finite negative significand exponent =>
    let d := digitsAndPoint significand exponent
    let e := d.2 - 1
    String.ofList <| withSign negative <|
      if -5 ≤ e ∧ e ≤ 15 then ensurePoint (placePoint d.1 d.2)
      else
        (match d.1 with
          | [] => []
          | [c] => [c]
          | c :: rest => c :: '.' :: rest) ++ exponentChars e
  | .infinite _ | .nan => "null"

end CrudStack.Double
