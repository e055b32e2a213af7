/-
# `CrudStack.Proofs.Json.Range` — which numbers are in range

`Literal.InRange` is told by what the reader does: it keeps as many digits as fit in 64 bits, rounds
them to a double, and multiplies that with the double of a power of ten.  What a number is worth is
told without the reader, and the two agree on which numbers are too large for a double as far as
fifteen digits go: what is worth at most `Literal.reached` is in range (`inRange_of_magnitude_le`),
and what is worth at least `Literal.missed` is not (`not_inRange_of_le_magnitude`).  In between,
where the greatest double is, the reader's own rounding decides.  `Literal.FitsDouble` puts the
three together, and comes to the same as the reader (`fitsDouble_iff`).

Both are said of numbers with at most 2^30 digits.  An exponent is cut short at 2^31, and then it is
taken for granted that it outweighs the digits: ever so many of them before the point, or as many
zeros behind it, would make up for it.
-/
import CrudStack.Proofs.Json.Digits
import Mathlib.Tactic.MkIffOfInductiveProp

namespace CrudStack.Json

open Double (overflow halfUnit Within)

/-- The greatest number of fifteen digits below the greatest double. -/
def Literal.reached : Nat := 179769313486231 * 10 ^ 294

/-- The least number of fifteen digits above the greatest double. -/
def Literal.missed : Nat := 179769313486232 * 10 ^ 294

/-! ## Powers of ten -/

/-- What the limits of the reader and of fifteen digits are in comparison with `overflow`. -/
@[mk_iff]
structure Limits : Prop where
  word : wordLimit * 4 < overflow
  ten : 10 ^ tenLimit < overflow
  next : overflow ≤ 10 ^ (tenLimit + 1)
  reached : Literal.reached < overflow
  missed : 0 < Literal.missed
  apart : Literal.reached < Literal.missed
  below : Literal.reached * ((2 ^ 53 + 3) * 10 ^ 18) < overflow * ((10 ^ 18 - 1) * 2 ^ 53)
  above : overflow * ((10 ^ 18 + 1) * 2 ^ 53) ≤ Literal.missed * ((2 ^ 53 - 3) * 10 ^ 18)

theorem limits : Limits := by
  rw [limits_iff]
  decide +kernel

theorem word_lt_overflow : wordLimit < overflow :=
  (Nat.le_mul_of_pos_right wordLimit (by decide)).trans_lt limits.word

/-- A word itself is far from the greatest double. -/
theorem word_in_range {n : Nat} (hn : n ≤ wordLimit) :
    (n : ℚ) * 10 ^ (0 : Int) * (1 + 3 * halfUnit) < overflow := by
  have hpart : 1 + 3 * halfUnit ≤ (4 : Nat) := by norm_num [halfUnit]
  rw [zpow_zero, mul_one]
  calc (n : ℚ) * (1 + 3 * halfUnit) ≤ wordLimit * (4 : Nat) :=
        mul_le_mul (Nat.cast_le.mpr hn) hpart (by norm_num [halfUnit]) (Nat.cast_nonneg _)
    _ = (wordLimit * 4 : Nat) := (Nat.cast_mul _ _).symm
    _ < overflow := Nat.cast_lt.mpr limits.word

/-- Dividing with a power of ten never fails. -/
theorem scaleDouble_of_neg : ∀ (fuel : Nat) (x : Double) {power : Int}, power < 0 →
    (scaleDouble fuel x power).isSome = true
  | 0, x, _, _ => rfl
  | fuel + 1, x, power, hpower => by
      unfold scaleDouble
      rw [if_neg (by omega : ¬ 0 ≤ power), if_neg (by omega : ¬ 0 ≤ power)]
      split
      · rfl
      · next hfar =>
          split
          · rfl
          · have hnext : power + tenLimit < 0 := by omega
            exact scaleDouble_of_neg fuel _ hnext

theorem scaleDouble_of_le (fuel : Nat) (x : Double) {power : Nat} (h : power ≤ tenLimit) :
    (scaleDouble (fuel + 1) x power).isSome = !(x.timesPowerOfTen power).isInfinite := by
  unfold scaleDouble
  rw [Int.natAbs_natCast, if_pos h, if_pos (Int.natCast_nonneg power)]
  dsimp only
  split <;> simp [*]

theorem scaleDouble_of_gt (fuel : Nat) (x : Double) {power : Nat} (h : tenLimit < power) :
    (scaleDouble (fuel + 1) x power).isSome = x.isZero := by
  unfold scaleDouble
  rw [Int.natAbs_natCast, if_neg (by omega), if_pos (Int.natCast_nonneg power)]
  split <;> simp [*]

/-- Whether a number is below `overflow`, but for the errors of two roundings. -/
def Below (x : ℚ) (answer : Bool) : Prop :=
  (x * (1 + 3 * halfUnit) < overflow → answer = true) ∧
    ((overflow : ℚ) ≤ x * (1 - 3 * halfUnit) → answer = false)

theorem halfUnit_pos : 0 < halfUnit := by norm_num [halfUnit]

section Scaled

variable {n : Nat} (hn : n ≤ wordLimit) (fuel : Nat)
include hn

theorem below_of_neg {power : Int} (hpower : power < 0) :
    Below (n * 10 ^ power) (scaleDouble (fuel + 1) (.ofNat n) power).isSome := by
  have hhalf := halfUnit_pos
  have hten : (10 : ℚ) ^ power ≤ 1 := zpow_le_one_of_nonpos₀ (by norm_num) hpower.le
  have hproduct : 0 ≤ (n : ℚ) * 10 ^ power :=
    mul_nonneg (Nat.cast_nonneg n) (zpow_nonneg (by norm_num) power)
  have hsmall : (n : ℚ) * 10 ^ power * (1 - 3 * halfUnit) < overflow :=
    calc (n : ℚ) * 10 ^ power * (1 - 3 * halfUnit) ≤ n * 10 ^ power :=
          mul_le_of_le_one_right hproduct (by linarith only [hhalf])
      _ ≤ n := mul_le_of_le_one_right (Nat.cast_nonneg n) hten
      _ < overflow := Nat.cast_lt.mpr (hn.trans_lt word_lt_overflow)
  exact ⟨fun _ => scaleDouble_of_neg _ _ hpower, fun h => absurd h (not_le.mpr hsmall)⟩

theorem below_of_le {power : Nat} (hpower : power ≤ tenLimit) :
    Below (n * 10 ^ power) (scaleDouble (fuel + 1) (.ofNat n) power).isSome := by
  have hten : 10 ^ power < overflow :=
    (Nat.pow_le_pow_right (by decide) hpower).trans_lt limits.ten
  obtain ⟨q, hq, hqnear⟩ := Double.ofNat_near (hn.trans_lt word_lt_overflow)
  obtain ⟨t, htnear, hinfinite⟩ := Double.timesPowerOfTen_isInfinite hq hten
  have hproduct : Within (3 * halfUnit) (q * t) (n * 10 ^ power) :=
    Double.Within.mul halfUnit_pos.le (by norm_num [halfUnit]) (Nat.cast_nonneg n) (by positivity)
      hqnear htnear
  rw [scaleDouble_of_le fuel _ hpower]
  constructor
  · intro h
    rw [Bool.not_eq_true', ← Bool.not_eq_true, hinfinite, not_le]
    exact hproduct.2.trans_lt h
  · intro h
    rw [Bool.not_eq_false', hinfinite]
    exact h.trans hproduct.1

theorem below_of_gt {power : Nat} (hpower : tenLimit < power) :
    Below (n * 10 ^ power) (scaleDouble (fuel + 1) (.ofNat n) power).isSome := by
  have hhalf := halfUnit_pos
  have hproduct : 0 ≤ (n : ℚ) * 10 ^ power := by positivity
  have hword : n < overflow := hn.trans_lt word_lt_overflow
  rw [scaleDouble_of_gt fuel _ hpower]
  obtain rfl | hpos := Nat.eq_zero_or_pos n
  · have hpositive : (0 : ℚ) < overflow := Nat.cast_pos.mpr hword
    rw [Nat.cast_zero, zero_mul]
    refine ⟨fun _ => rfl, fun h => ?_⟩
    rw [zero_mul] at h
    exact absurd h (not_le.mpr hpositive)
  · have hlarge : (overflow : ℚ) ≤ n * 10 ^ power * (1 + 3 * halfUnit) :=
      calc (overflow : ℚ) ≤ (10 ^ (tenLimit + 1) : Nat) := Nat.cast_le.mpr limits.next
        _ ≤ (10 ^ power : Nat) := Nat.cast_le.mpr (Nat.pow_le_pow_right (by decide) hpower)
        _ = 10 ^ power := by rw [Nat.cast_pow, Nat.cast_ofNat]
        _ ≤ n * 10 ^ power := le_mul_of_one_le_left (by positivity) (Nat.one_le_cast.mpr hpos)
        _ ≤ n * 10 ^ power * (1 + 3 * halfUnit) :=
            le_mul_of_one_le_right hproduct (by linarith only [hhalf])
    refine ⟨fun h => absurd hlarge (not_le.mpr h), fun _ => ?_⟩
    rw [← Bool.not_eq_true, Double.isZero_ofNat hword]
    exact hpos.ne'

/-- A word can be multiplied with a power of ten if the exact product is below `overflow`. -/
theorem below_scaleDouble (power : Int) :
    Below (n * 10 ^ power) (scaleDouble (fuel + 1) (.ofNat n) power).isSome := by
  obtain hneg | hpos := lt_or_ge power 0
  · exact below_of_neg hn fuel hneg
  · obtain ⟨k, rfl⟩ := Int.eq_ofNat_of_zero_le hpos
    rw [zpow_natCast]
    obtain hle | hgt := le_or_gt k tenLimit
    · exact below_of_le hn fuel hle
    · exact below_of_gt hn fuel hgt

end Scaled

namespace Literal

/-! ## What the reader makes of it -/

variable {l : Literal}

theorem toDouble_isSome {n : Numeral} {significand : Nat} {power : Int} :
    (∃ d, n.toDouble significand power = .ok d) ↔
      (scaleDouble 4 (.ofNat significand) power).isSome = true := by
  unfold Numeral.toDouble
  cases scaleDouble 4 (.ofNat significand) power <;> simp

/-- A number whose exponent is not cut short is in range if what is kept of it can be scaled. -/
theorem inRange_iff (hl : l.WellFormed)
    (hexponent : ∀ down ds, l.exponent = some (down, ds) → natural ds ≤ exponentLimit) :
    l.InRange ↔ (scaleDouble 4 (.ofNat l.kept.1) (l.kept.2 + l.tens)).isSome = true := by
  have hkept := kept_le hl
  rw [← toDouble_isSome (n := l.numeral 0 0)]
  obtain ⟨negative, whole, fraction, exponent⟩ := l
  unfold InRange numeral
  rcases exponent with - | ⟨down, digits⟩
  · cases fraction with
    | none =>
        by_cases hfits : (absorb wordLimit 0 whole).2.isEmpty = true
        · have hpower : kept ⟨negative, whole, none, none⟩ = ((absorb wordLimit 0 whole).1, 0) := by
            rw [List.isEmpty_iff] at hfits
            simp [kept, absorb, hfits]
          have hscaled := (below_scaleDouble hkept 3 0).1 (word_in_range hkept)
          rw [toDouble_isSome]
          refine iff_of_true ?_ (by rw [hpower] at hscaled ⊢; exact hscaled)
          simp only [Numeral.value, if_pos hfits, Except.ok.injEq, exists_eq']
        · simp only [Numeral.value, if_neg hfits]
          rfl
    | some ds => simp only [Numeral.value, kept, tens, Option.getD_some, add_zero]
  · have hall : absorb exponentLimit 0 digits = (natural digits, []) :=
      absorb_of_le (hexponent down digits rfl)
    cases down <;>
      simp only [Numeral.value, kept, tens, hall, List.isEmpty_nil, if_true, Bool.false_eq_true,
        if_false, sub_eq_add_neg]

/-- If its exponent is cut short, a number is in range if it is zero or its exponent goes down. -/
theorem inRange_of_long {down : Bool} {ds : List Char} (hl : l.WellFormed)
    (hexponent : l.exponent = some (down, ds)) (hlong : exponentLimit < natural ds) :
    l.InRange ↔ natural l.digits = 0 ∨ down = true := by
  have hcut : (absorb exponentLimit 0 ds).2.isEmpty = false := by
    obtain ⟨taken, hsplit, hvalue, hlimit, -⟩ :=
      absorb_spec exponentLimit (hl.exponent down ds hexponent).2 (Nat.zero_le _)
    rw [List.isEmpty_eq_false_iff]
    intro hnil
    rw [hnil, List.append_nil] at hsplit
    rw [hvalue, ← hsplit, zero_mul, zero_add] at hlimit
    omega
  rw [← kept_eq_zero hl]
  obtain ⟨negative, whole, fraction, exponent⟩ := l
  obtain rfl : exponent = some (down, ds) := hexponent
  unfold InRange numeral
  simp only [Numeral.value, hcut, Bool.false_eq_true, if_false]
  split
  · next h =>
      refine iff_of_false ?_ ?_
      · rintro ⟨d, hd⟩
        cases hd
      · rintro (hzero | rfl)
        · exact h.1 hzero
        · exact Bool.false_ne_true h.2
  · next h =>
      refine iff_of_true ⟨_, rfl⟩ ?_
      cases down
      · exact .inl (by_contra fun hzero => h ⟨hzero, rfl⟩)
      · exact .inr rfl

/-! ## Fifteen digits -/

theorem reached_lt : (reached : ℚ) * (1 + 3 * halfUnit) < overflow * (1 - lost) := by
  have hnat : ((reached * ((2 ^ 53 + 3) * 10 ^ 18) : Nat) : ℚ) <
      (overflow * ((10 ^ 18 - 1) * 2 ^ 53) : Nat) := Nat.cast_lt.mpr limits.below
  rw [Nat.cast_mul, Nat.cast_mul overflow] at hnat
  have hleft : 1 + 3 * halfUnit = ((2 ^ 53 + 3) * 10 ^ 18 : Nat) / (2 ^ 53 * 10 ^ 18) := by
    norm_num [halfUnit]
  have hright : 1 - lost = ((10 ^ 18 - 1) * 2 ^ 53 : Nat) / (2 ^ 53 * 10 ^ 18) := by
    norm_num [lost]
  rw [hleft, hright, mul_div_assoc', mul_div_assoc']
  exact div_lt_div_of_pos_right hnat (by norm_num)

theorem overflow_le : (overflow : ℚ) * (1 + lost) ≤ missed * (1 - 3 * halfUnit) := by
  have hnat : ((overflow * ((10 ^ 18 + 1) * 2 ^ 53) : Nat) : ℚ) ≤
      (missed * ((2 ^ 53 - 3) * 10 ^ 18) : Nat) := Nat.cast_le.mpr limits.above
  rw [Nat.cast_mul, Nat.cast_mul missed] at hnat
  have hleft : 1 + lost = ((10 ^ 18 + 1) * 2 ^ 53 : Nat) / (2 ^ 53 * 10 ^ 18) := by
    norm_num [lost]
  have hright : 1 - 3 * halfUnit = ((2 ^ 53 - 3) * 10 ^ 18 : Nat) / (2 ^ 53 * 10 ^ 18) := by
    norm_num [halfUnit]
  rw [hleft, hright, mul_div_assoc', mul_div_assoc']
  exact div_le_div_of_nonneg_right hnat (by norm_num)

section Long

variable {ds : List Char} (hdigits : l.digits.length ≤ Nat.pow 2 30)
  (hlong : exponentLimit < natural ds)
include hdigits hlong

theorem outweighed : ((l.whole.length + (l.fraction.getD []).length : Nat) : Int) + tenLimit + 1 ≤
    natural ds := by
  have hlimit : exponentLimit = 2147483647 := rfl
  have hten : tenLimit = 308 := rfl
  have hpower : Nat.pow 2 30 = 1073741824 := rfl
  rw [digits, List.length_append] at hdigits
  omega

/-- A long exponent makes a number small, however many digits it has before the point. -/
theorem magnitude_lt_missed (hl : l.WellFormed) (hexponent : l.exponent = some (true, ds)) :
    l.magnitude < missed := by
  have hless := outweighed hdigits hlong
  have htens : l.tens = -(natural ds : Int) := by rw [tens, hexponent]; rfl
  calc l.magnitude < 10 ^ (l.whole.length + l.tens) := magnitude_lt hl
    _ ≤ 10 ^ (0 : Int) := zpow_le_zpow_right₀ (by norm_num) (by omega)
    _ = (1 : Nat) := by rw [zpow_zero, Nat.cast_one]
    _ ≤ missed := Nat.cast_le.mpr limits.missed

/-- And large, however many zeros it has behind the point. -/
theorem reached_lt_magnitude (hexponent : l.exponent = some (false, ds))
    (hnonzero : natural l.digits ≠ 0) : (reached : ℚ) < l.magnitude := by
  have hless := outweighed hdigits hlong
  have htens : l.tens = natural ds := by rw [tens, hexponent]; rfl
  calc (reached : ℚ) < (10 ^ (tenLimit + 1) : Nat) :=
        Nat.cast_lt.mpr (limits.reached.trans_le limits.next)
    _ = 10 ^ ((tenLimit + 1 : Nat) : Int) := by rw [zpow_natCast, Nat.cast_pow, Nat.cast_ofNat]
    _ ≤ 10 ^ (l.tens - (l.fraction.getD []).length) :=
        zpow_le_zpow_right₀ (by norm_num) (by omega)
    _ ≤ l.magnitude := le_magnitude hnonzero

end Long

/-- What is worth no more than `reached` is in range. -/
theorem inRange_of_magnitude_le (hl : l.WellFormed) (hdigits : l.digits.length ≤ Nat.pow 2 30)
    (h : l.magnitude ≤ reached) : l.InRange := by
  by_cases hshort : ∀ down ds, l.exponent = some (down, ds) → natural ds ≤ exponentLimit
  · have hpart : 0 < 1 - lost := by norm_num [lost]
    have hpart' : 0 ≤ 1 + 3 * halfUnit := by norm_num [halfUnit]
    refine (inRange_iff hl hshort).mpr ((below_scaleDouble (kept_le hl) 3 _).1 ?_)
    refine lt_of_mul_lt_mul_right ?_ hpart.le
    calc (l.kept.1 : ℚ) * 10 ^ (l.kept.2 + l.tens) * (1 + 3 * halfUnit) * (1 - lost)
        = l.kept.1 * 10 ^ (l.kept.2 + l.tens) * (1 - lost) * (1 + 3 * halfUnit) := by
          rw [mul_right_comm]
      _ ≤ reached * (1 + 3 * halfUnit) :=
          mul_le_mul_of_nonneg_right ((magnitude_near hl).1.trans h) hpart'
      _ < overflow * (1 - lost) := reached_lt
  · push Not at hshort
    obtain ⟨down, ds, hexponent, hlong⟩ := hshort
    refine (inRange_of_long hl hexponent hlong).mpr ?_
    cases down
    · refine .inl (by_contra fun hnonzero => ?_)
      exact absurd h (not_le.mpr (reached_lt_magnitude hdigits hlong hexponent hnonzero))
    · exact .inr rfl

/-- What is worth `missed` or more is not in range. -/
theorem not_inRange_of_le_magnitude (hl : l.WellFormed) (hdigits : l.digits.length ≤ Nat.pow 2 30)
    (h : (missed : ℚ) ≤ l.magnitude) : ¬ l.InRange := by
  by_cases hshort : ∀ down ds, l.exponent = some (down, ds) → natural ds ≤ exponentLimit
  · have hpart : 0 < 1 + lost := by norm_num [lost]
    have hpart' : 0 ≤ 1 - 3 * halfUnit := by norm_num [halfUnit]
    rw [inRange_iff hl hshort, Bool.not_eq_true]
    refine (below_scaleDouble (kept_le hl) 3 _).2 ?_
    refine le_of_mul_le_mul_right ?_ hpart
    calc (overflow : ℚ) * (1 + lost) ≤ missed * (1 - 3 * halfUnit) := overflow_le
      _ ≤ l.kept.1 * 10 ^ (l.kept.2 + l.tens) * (1 + lost) * (1 - 3 * halfUnit) :=
          mul_le_mul_of_nonneg_right (h.trans (magnitude_near hl).2) hpart'
      _ = l.kept.1 * 10 ^ (l.kept.2 + l.tens) * (1 - 3 * halfUnit) * (1 + lost) := by
          rw [mul_right_comm]
  · push Not at hshort
    obtain ⟨down, ds, hexponent, hlong⟩ := hshort
    rw [inRange_of_long hl hexponent hlong]
    rintro (hzero | rfl)
    · rw [magnitude, hzero, Nat.cast_zero, zero_mul] at h
      exact absurd h (not_le.mpr (Nat.cast_pos.mpr limits.missed))
    · exact absurd h (not_le.mpr (magnitude_lt_missed hdigits hlong hl hexponent))

/-! ## Numbers that are not beyond the greatest double -/

/-- A number is not beyond the greatest double.  What it is worth tells so, up to `reached`, and
rules it out from `missed` on.  The rounding of the reader is asked in between, and its cut of an
exponent where there are more digits than such an exponent outweighs. -/
inductive FitsDouble (l : Literal) : Prop
  | below : l.digits.length ≤ Nat.pow 2 30 → l.magnitude ≤ reached → l.FitsDouble
  | rounded : reached < l.magnitude → l.magnitude < missed → l.InRange → l.FitsDouble
  | long : Nat.pow 2 30 < l.digits.length → l.InRange → l.FitsDouble

/-- That is so of exactly the numbers that the reader accepts. -/
theorem fitsDouble_iff (hl : l.WellFormed) : l.FitsDouble ↔ l.InRange := by
  constructor
  · rintro (⟨hdigits, hsize⟩ | ⟨-, -, hrange⟩ | ⟨-, hrange⟩)
    · exact inRange_of_magnitude_le hl hdigits hsize
    · exact hrange
    · exact hrange
  · intro hrange
    obtain hdigits | hdigits := le_or_gt l.digits.length (Nat.pow 2 30)
    · obtain hsize | hsize := le_or_gt l.magnitude reached
      · exact .below hdigits hsize
      · refine .rounded hsize (not_le.mp fun hmissed => ?_) hrange
        exact not_inRange_of_le_magnitude hl hdigits hmissed hrange
    · exact .long hdigits hrange

theorem reached_lt_missed : (reached : ℚ) < missed := Nat.cast_lt.mpr limits.apart

theorem not_fitsDouble_of_le_magnitude (hdigits : l.digits.length ≤ Nat.pow 2 30)
    (h : (missed : ℚ) ≤ l.magnitude) : ¬ l.FitsDouble := by
  rintro (⟨-, hsize⟩ | ⟨-, hsize, -⟩ | ⟨hlong, -⟩)
  · exact absurd (h.trans hsize) (not_le.mpr reached_lt_missed)
  · exact absurd h (not_le.mpr hsize)
  · exact absurd hdigits (Nat.not_le.mpr hlong)

end Literal

end CrudStack.Json
