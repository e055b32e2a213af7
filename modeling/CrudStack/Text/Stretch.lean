/-
# `CrudStack.Text.Stretch` — code point tables as stretches

A property of characters is a set of code points, and the sets that matter here are long runs:
whole blocks, or every second code point where upper and lower case alternate.  A stretch is such
a run, and a table is a list of stretches.  Membership is a plain search, because the same
definition that runs is the one that statements about all characters unfold.
-/

namespace CrudStack.Text

/-- The code points `first`, `first + step`, … up to `last`. -/
structure Stretch where
  first : Nat
  last : Nat
  step : Nat
  deriving DecidableEq, Repr

/-- Whether the stretch holds the code point. -/
def Stretch.has (s : Stretch) (code : Nat) : Bool :=
  s.first ≤ code && code ≤ s.last && (code - s.first) % s.step == 0

/-- Whether some stretch of the table holds the character. -/
def Stretch.anyHas (table : List Stretch) (c : Char) : Bool :=
  table.any (·.has c.toNat)

/-- Moves every code point of a stretch by the same distance: the first one goes to `image`. -/
structure Shift where
  domain : Stretch
  image : Nat
  deriving DecidableEq, Repr

/-- Where the first matching shift of the table sends the code point. -/
def Shift.find? (table : List Shift) (code : Nat) : Option Nat :=
  (table.find? (·.domain.has code)).map fun s => s.image + (code - s.domain.first)

end CrudStack.Text
