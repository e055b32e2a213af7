/-
# `CrudStack.Decimal.Shortest` — the fewest digits that read back

Every real number near enough to a double rounds to it.  `Double.shortest` looks for the decimal
with the fewest digits in that interval: for one digit, then two, up to seventeen, it tries the two
neighbours of the double on the decimal grid of that many digits and takes the nearer one that lies
in the interval.  All comparisons are between natural numbers.
-/
import CrudStack.Decimal.Double

namespace CrudStack.Double

/-- A positive finite double with the interval that rounds to it, in quarters of a unit of its last
place: the double is `4 * significand` quarters. -/
structure Span where
  significand : Nat
  exponent : Int

namespace Span

/-- Quarters from the double down to the lower end. -/
def below (s : Span) : Nat :=
  if s.significand = Nat.pow 2 52 ∧ leastExponent < s.exponent then 1 else 2

/-- The double as a ratio. -/
def ratio (s : Span) : Nat × Nat := scaleRatio s.significand 1 2 s.exponent

/-- A number of quarters as a ratio. -/
def quarters (s : Span) (n : Nat) : Nat × Nat := scaleRatio n 4 2 s.exponent

/-- Whether `digits * 10 ^ power` rounds to the double: it lies between the ends, and at an end only
if the significand is even. -/
def has (s : Span) (digits : Nat) (power : Int) : Bool :=
  let x := scaleRatio digits 1 10 power
  let low := s.quarters (4 * s.significand - s.below)
  let high := s.quarters (4 * s.significand + 2)
  if s.significand % 2 = 0 then
    low.1 * x.2 ≤ x.1 * low.2 && x.1 * high.2 ≤ high.1 * x.2
  else
    low.1 * x.2 < x.1 * low.2 && x.1 * high.2 < high.1 * x.2

/-- The greatest number of grid steps `10 ^ power` that is no more than the double. -/
def floorAt (s : Span) (power : Int) : Nat :=
  let r := s.ratio
  let q := scaleRatio r.1 r.2 10 (-power)
  q.1 / q.2

/-- Whether the upper neighbour of the double on a grid is the nearer one; a tie is not. -/
def upperNearer (s : Span) (power : Int) : Bool :=
  let r := s.ratio
  let q := scaleRatio r.1 r.2 10 (-power)
  q.2 < 2 * (q.1 % q.2)

/-- The neighbour of the double on a grid that rounds to it, the nearer one if both do. -/
def gridHit? (s : Span) (power : Int) : Option Nat :=
  let low := s.floorAt power
  match s.has low power, s.has (low + 1) power with
  | true, true => some (if s.upperNearer power then low + 1 else low)
  | true, false => some low
  | false, true => some (low + 1)
  | false, false => none

/-- Steps needed until a ratio below one reaches one when multiplied by ten. -/
def stepsToOne : Nat → Nat → Nat → Nat
  | 0, _, _ => 0
  | fuel + 1, numerator, denominator =>
    if denominator ≤ numerator then 0 else stepsToOne fuel (10 * numerator) denominator + 1

/-- The number of digits before the point; zero or less below one tenth and so on. -/
def pointPosition (s : Span) : Int :=
  let r := s.ratio
  if r.2 ≤ r.1 then digitCount (r.1 / r.2)
  else 1 - (stepsToOne 400 r.1 r.2 : Int)

/-- The first hit among the grids of `count`, `count + 1`, … digits. -/
def searchFrom (s : Span) (position : Int) : Nat → Nat → Nat × Int
  | 0, _ => (s.floorAt 0, 0)
  | fuel + 1, count =>
    let power := position - count
    match s.gridHit? power with
    | some digits => (digits, power)
    | none => searchFrom s position fuel (count + 1)

end Span

/-- Moves zeros at the end of the digits into the power of ten. -/
def dropZeros : Nat → Nat → Int → Nat × Int
  | 0, digits, power => (digits, power)
  | fuel + 1, digits, power =>
    if digits ≠ 0 ∧ digits % 10 = 0 then dropZeros fuel (digits / 10) (power + 1)
    else (digits, power)

/-- The decimal `digits * 10 ^ power` with the fewest digits that rounds to a positive finite
double, and among those the nearest. -/
def shortest (significand : Nat) (exponent : Int) : Nat × Int :=
  let s : Span := ⟨significand, exponent⟩
  let found := s.searchFrom s.pointPosition 17 1
  dropZeros 20 found.1 found.2

end CrudStack.Double
