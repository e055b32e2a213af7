/-
# `CrudStack.Decimal.Double` — numbers of double precision

A double is kept as a sign, a significand and a power of two, so that reading, rounding and printing
are exact arithmetic on natural numbers.  A finite double is in normal form: its significand is
below 2^53, and it is at least 2^52 unless the exponent is the least one.  `Double.ofRatio` is the
only function that rounds — to the nearest double, a tie to the even significand — and every other
operation asks it.
-/

namespace CrudStack

/-- A number of double precision; a finite one is `significand * 2 ^ exponent` with its sign. -/
inductive Double where
  | finite (negative : Bool) (significand : Nat) (exponent : Int)
  | infinite (negative : Bool)
  | nan
  deriving DecidableEq, Repr

namespace Double

/-- The least exponent of a finite double. -/
def leastExponent : Int := -1074

/-- The greatest exponent of a finite double. -/
def greatestExponent : Int := 971

/-- Zero with a sign. -/
def zero (negative : Bool) : Double := .finite negative 0 leastExponent

/-- The quotient rounded to the nearest natural number, a tie to the even one. -/
def roundQuotient (numerator denominator : Nat) : Nat :=
  let q := numerator / denominator
  let r := numerator % denominator
  if 2 * r < denominator then q
  else if denominator < 2 * r then q + 1
  else q + q % 2

/-- A ratio times a power of a base, as a ratio again. -/
def scaleRatio (numerator denominator base : Nat) (power : Int) : Nat × Nat :=
  if 0 ≤ power then (numerator * base.pow power.toNat, denominator)
  else (numerator, denominator * base.pow (-power).toNat)

/-- The exponent of the greatest power of two that a positive ratio reaches. -/
def log2Ratio (numerator denominator : Nat) : Int :=
  let k : Int := (numerator.log2 : Int) - denominator.log2
  let s := scaleRatio numerator denominator 2 (-k)
  if s.2 ≤ s.1 then k else k - 1

/-- The double next to a ratio, with a sign. -/
def ofRatio (negative : Bool) (numerator denominator : Nat) : Double :=
  if numerator = 0 then zero negative
  else
    let exponent := max (log2Ratio numerator denominator - 52) leastExponent
    let s := scaleRatio numerator denominator 2 (-exponent)
    let significand := roundQuotient s.1 s.2
    let carried := significand = Nat.pow 2 53
    let exponent := if carried then exponent + 1 else exponent
    if greatestExponent < exponent then .infinite negative
    else .finite negative (if carried then Nat.pow 2 52 else significand) exponent

/-- The double next to a natural number. -/
def ofNat (n : Nat) : Double := ofRatio false n 1

/-- Number of digits in base ten. -/
def digitCount (n : Nat) : Nat := (Nat.toDigits 10 n).length

/-- The double next to `digits * 10 ^ power`.  Beyond the range of doubles nothing is computed, so
that a long exponent costs nothing. -/
def ofDecimal (negative : Bool) (digits : Nat) (power : Int) : Double :=
  let magnitude : Int := digitCount digits + power
  if digits = 0 ∨ magnitude < -400 then zero negative
  else if 400 < magnitude then .infinite negative
  else
    let s := scaleRatio digits 1 10 power
    ofRatio negative s.1 s.2

/-- A double as a ratio without its sign; none if it is not finite. -/
def ratio? : Double → Option (Nat × Nat)
  | .finite _ significand exponent => some (scaleRatio significand 1 2 exponent)
  | .infinite _ | .nan => none

/-- Whether the sign bit is set. -/
def isNegative : Double → Bool
  | .finite negative _ _ | .infinite negative => negative
  | .nan => false

/-- The double with the other sign. -/
def negate : Double → Double
  | .finite negative significand exponent => .finite (!negative) significand exponent
  | .infinite negative => .infinite (!negative)
  | .nan => .nan

/-- Whether a double is infinite. -/
def isInfinite : Double → Bool
  | .infinite _ => true
  | _ => false

/-- Whether a double is zero, of either sign. -/
def isZero : Double → Bool
  | .finite _ significand _ => significand == 0
  | _ => false

/-- Whether a double is finite with a full significand: neither zero nor subnormal. -/
def isNormal : Double → Bool
  | .finite _ significand _ => Nat.pow 2 52 ≤ significand
  | _ => false

/-- A double times `10 ^ power`, where that power is itself rounded to a double first. -/
def timesPowerOfTen (x : Double) (power : Nat) : Double :=
  match x.ratio?, (ofNat (Nat.pow 10 power)).ratio? with
  | some a, some b => ofRatio x.isNegative (a.1 * b.1) (a.2 * b.2)
  | _, _ => x

/-- A double divided by `10 ^ power`, where that power is itself rounded to a double first. -/
def overPowerOfTen (x : Double) (power : Nat) : Double :=
  match x.ratio?, (ofNat (Nat.pow 10 power)).ratio? with
  | some a, some b => ofRatio x.isNegative (a.1 * b.2) (a.2 * b.1)
  | _, _ => x

end Double

end CrudStack
