/-
# `CrudStack.Proofs.Decimal.Rounding` — how near a rounded number is

Two facts about `Double.ofRatio` are enough to reason about what is computed with doubles:

* it yields an infinite double exactly from `Double.overflow` on, which lies halfway between the
  greatest double and the next power of two (`ofRatio_isInfinite`);
* below that, and from one on, the double that it yields is off by half a unit in the last of 53
  places at most (`ofRatio_near`).

Numbers below one are not looked at: there the error is not relative, because the places end.
-/
import CrudStack.Decimal.Double
import Mathlib.Algebra.Order.Field.Power
import Mathlib.Data.Nat.Log
import Mathlib.Data.Rat.Cast.Order
import Mathlib.Tactic.FieldSimp
import Mathlib.Tactic.Linarith
import Mathlib.Tactic.NormNum
import Mathlib.Tactic.Positivity
import Mathlib.Tactic.Ring

namespace CrudStack.Double

variable {n d : Nat}

/-! ## Ratios -/

theorem scaleRatio_div {base : Nat} (hbase : 0 < base) (n d : Nat) (power : Int) :
    ((scaleRatio n d base power).1 : ℚ) / (scaleRatio n d base power).2
      = n / d * (base : ℚ) ^ power := by
  have hbase' : (base : ℚ) ≠ 0 := by exact_mod_cast hbase.ne'
  unfold scaleRatio
  split
  · next h =>
      obtain ⟨k, rfl⟩ := Int.eq_ofNat_of_zero_le h
      simp only [Nat.pow_eq, Int.toNat_natCast, Nat.cast_mul, Nat.cast_pow, zpow_natCast]
      ring
  · next h =>
      obtain ⟨k, hk⟩ := Int.eq_ofNat_of_zero_le (by omega : 0 ≤ -power)
      obtain rfl : power = -(k : Int) := by omega
      simp only [Nat.pow_eq, neg_neg, Int.toNat_natCast, Nat.cast_mul, Nat.cast_pow, zpow_neg,
        zpow_natCast]
      field_simp

theorem scaleRatio_pos {base : Nat} (hbase : 0 < base) (hd : 0 < d) (n : Nat) (power : Int) :
    0 < (scaleRatio n d base power).2 := by
  unfold scaleRatio
  split
  · exact hd
  · exact Nat.mul_pos hd (Nat.pow_pos hbase)

/-! ## The place of the first digit -/

/-- A positive number lies between the power of two of its logarithm and the next one. -/
theorem log2_bounds (hn : 0 < n) :
    (2 : ℚ) ^ (n.log2 : Int) ≤ n ∧ (n : ℚ) < 2 ^ (n.log2 + 1 : Int) := by
  have hlow : 2 ^ n.log2 ≤ n := Nat.log2_self_le hn.ne'
  have hhigh : n < 2 ^ (n.log2 + 1) := Nat.lt_log2_self
  constructor
  · rw [zpow_natCast]
    exact_mod_cast hlow
  · have hcast : (n : ℚ) < 2 ^ (n.log2 + 1) := by exact_mod_cast hhigh
    exact_mod_cast hcast

/-- Scaled by a power of two, a ratio tells whether it reaches that power. -/
theorem scaleRatio_le (hd : 0 < d) (n : Nat) (k : Int) :
    (scaleRatio n d 2 (-k)).2 ≤ (scaleRatio n d 2 (-k)).1 ↔ (2 : ℚ) ^ k ≤ n / d := by
  have hpos : (0 : ℚ) < (scaleRatio n d 2 (-k)).2 := by
    exact_mod_cast scaleRatio_pos two_pos hd n (-k)
  rw [← Nat.cast_le (α := ℚ), ← one_le_div hpos, scaleRatio_div two_pos, Nat.cast_ofNat, zpow_neg,
    ← div_eq_mul_inv, one_le_div (by positivity)]

/-- A positive ratio lies between the power of two that it reaches and the next one. -/
theorem log2Ratio_bounds (hn : 0 < n) (hd : 0 < d) :
    (2 : ℚ) ^ log2Ratio n d ≤ n / d ∧ (n : ℚ) / d < 2 ^ (log2Ratio n d + 1) := by
  have hdq : (0 : ℚ) < d := by exact_mod_cast hd
  obtain ⟨hnlow, hnhigh⟩ := log2_bounds hn
  obtain ⟨hdlow, hdhigh⟩ := log2_bounds hd
  have hlow : (2 : ℚ) ^ ((n.log2 : Int) - d.log2 - 1) ≤ n / d := by
    rw [le_div_iff₀ hdq]
    calc (2 : ℚ) ^ ((n.log2 : Int) - d.log2 - 1) * d
        ≤ 2 ^ ((n.log2 : Int) - d.log2 - 1) * 2 ^ (d.log2 + 1 : Int) := by gcongr
      _ = 2 ^ (n.log2 : Int) := by rw [← zpow_add₀ two_ne_zero]; congr 1; ring
      _ ≤ n := hnlow
  have hhigh : (n : ℚ) / d < 2 ^ ((n.log2 : Int) - d.log2 + 1) := by
    rw [div_lt_iff₀ hdq]
    calc (n : ℚ) < 2 ^ (n.log2 + 1 : Int) := hnhigh
      _ = 2 ^ ((n.log2 : Int) - d.log2 + 1) * 2 ^ (d.log2 : Int) := by
          rw [← zpow_add₀ two_ne_zero]; congr 1; ring
      _ ≤ 2 ^ ((n.log2 : Int) - d.log2 + 1) * d := by gcongr
  unfold log2Ratio
  simp only [scaleRatio_le hd]
  split
  · next h => exact ⟨h, hhigh⟩
  · next h => exact ⟨hlow, by rw [sub_add_cancel]; exact not_le.mp h⟩

/-! ## Whole numbers -/

theorem roundQuotient_bounds (hd : 0 < d) (n : Nat) :
    2 * n ≤ 2 * (d * roundQuotient n d) + d ∧ 2 * (d * roundQuotient n d) ≤ 2 * n + d := by
  have hdivision : d * (n / d) + n % d = n := Nat.div_add_mod n d
  have hrest : n % d < d := Nat.mod_lt n hd
  unfold roundQuotient
  dsimp only
  split
  · omega
  · split
    · rw [Nat.mul_add]; omega
    · obtain heven | hodd := Nat.mod_two_eq_zero_or_one (n / d)
      · rw [heven, Nat.add_zero]; omega
      · rw [hodd, Nat.mul_add]; omega

/-- A tie goes to the even number. -/
theorem roundQuotient_even (hd : 0 < d) (htie : 2 * n = 2 * (d * roundQuotient n d) + d) :
    roundQuotient n d % 2 = 0 := by
  have hdivision : d * (n / d) + n % d = n := Nat.div_add_mod n d
  have hrest : n % d < d := Nat.mod_lt n hd
  unfold roundQuotient at htie ⊢
  dsimp only at htie ⊢
  split at htie
  · omega
  · split at htie
    · rw [Nat.mul_add] at htie; omega
    · rw [if_neg ‹_›, if_neg ‹_›]; omega

/-- An even number is reached from one half below it on, since the tie there goes to it. -/
theorem le_roundQuotient (hd : 0 < d) {m : Nat} (heven : m % 2 = 0) :
    m ≤ roundQuotient n d ↔ (m : ℚ) - 1 / 2 ≤ n / d := by
  have hdq : (0 : ℚ) < d := by exact_mod_cast hd
  have hcross : (m : ℚ) - 1 / 2 ≤ n / d ↔ 2 * (d * m) ≤ 2 * n + d := by
    rw [le_div_iff₀ hdq, ← Nat.cast_le (α := ℚ)]
    push_cast
    constructor <;> intro h <;> linarith
  rw [hcross]
  obtain ⟨hlow, hhigh⟩ := roundQuotient_bounds hd n
  constructor
  · intro h
    have hproduct : d * m ≤ d * roundQuotient n d := Nat.mul_le_mul_left d h
    omega
  · intro h
    by_contra hless
    have hproduct : d * (roundQuotient n d + 1) ≤ d * m := Nat.mul_le_mul_left d (by omega)
    have hsame : d * m = d * (roundQuotient n d + 1) := by rw [Nat.mul_add] at hproduct ⊢; omega
    have hnext : m = roundQuotient n d + 1 := Nat.eq_of_mul_eq_mul_left hd hsame
    have htie : roundQuotient n d % 2 = 0 :=
      roundQuotient_even hd (by rw [Nat.mul_add] at hsame; omega)
    omega

/-- The rounded quotient is off by one half at most. -/
theorem roundQuotient_near (hd : 0 < d) (n : Nat) : |(roundQuotient n d : ℚ) - n / d| ≤ 1 / 2 := by
  have hdq : (0 : ℚ) < d := by exact_mod_cast hd
  obtain ⟨hlow, hhigh⟩ := roundQuotient_bounds hd n
  have hlow' : 2 * (n : ℚ) ≤ 2 * (d * roundQuotient n d) + d := by exact_mod_cast hlow
  have hhigh' : 2 * ((d : ℚ) * roundQuotient n d) ≤ 2 * n + d := by exact_mod_cast hhigh
  have hcommon : (roundQuotient n d : ℚ) - n / d = (d * roundQuotient n d - n) / d := by field_simp
  rw [hcommon, abs_div, abs_of_pos hdq, div_le_iff₀ hdq, abs_le]
  constructor <;> linarith

/-! ## The significand -/

/-- The exponent of the last place that a rounded ratio has. -/
def lastPlace (n d : Nat) : Int := max (log2Ratio n d - 52) leastExponent

/-- A ratio in units of its last place, rounded. -/
def significand (n d : Nat) : Nat :=
  roundQuotient (scaleRatio n d 2 (-lastPlace n d)).1 (scaleRatio n d 2 (-lastPlace n d)).2

/-- A significand that has reached 2^53 is written with one place less. -/
def carriedPlace (n d : Nat) : Int :=
  if significand n d = Nat.pow 2 53 then lastPlace n d + 1 else lastPlace n d

theorem ofRatio_of_pos (hn : 0 < n) (negative : Bool) (d : Nat) :
    ofRatio negative n d =
      if greatestExponent < carriedPlace n d then .infinite negative
      else .finite negative
        (if significand n d = Nat.pow 2 53 then Nat.pow 2 52 else significand n d)
        (carriedPlace n d) := by
  rw [ofRatio, if_neg hn.ne']
  rfl

theorem isInfinite_of_pos (hn : 0 < n) (negative : Bool) (d : Nat) :
    (ofRatio negative n d).isInfinite = true ↔ greatestExponent < carriedPlace n d := by
  rw [ofRatio_of_pos hn]
  split <;> simp [isInfinite, *]

theorem scaleRatio_lastPlace (n d : Nat) :
    ((scaleRatio n d 2 (-lastPlace n d)).1 : ℚ) / (scaleRatio n d 2 (-lastPlace n d)).2 =
      n / d / 2 ^ lastPlace n d := by
  rw [scaleRatio_div two_pos, Nat.cast_ofNat, zpow_neg, ← div_eq_mul_inv]

/-- A ratio is off from its significand by half its last place at most. -/
theorem significand_near (hd : 0 < d) (n : Nat) :
    |(significand n d : ℚ) * 2 ^ lastPlace n d - n / d| ≤ 2 ^ lastPlace n d / 2 := by
  have hplace : (0 : ℚ) < 2 ^ lastPlace n d := by positivity
  have hnear := roundQuotient_near (scaleRatio_pos two_pos hd n (-lastPlace n d))
    (scaleRatio n d 2 (-lastPlace n d)).1
  rw [scaleRatio_lastPlace] at hnear
  calc |(significand n d : ℚ) * 2 ^ lastPlace n d - n / d|
      = |(significand n d : ℚ) - n / d / 2 ^ lastPlace n d| * 2 ^ lastPlace n d := by
        rw [← abs_of_pos hplace, ← abs_mul, abs_of_pos hplace, sub_mul,
          div_mul_cancel₀ _ hplace.ne']
    _ ≤ 1 / 2 * 2 ^ lastPlace n d := mul_le_mul_of_nonneg_right hnear hplace.le
    _ = 2 ^ lastPlace n d / 2 := by ring

/-- An even significand is reached from half a place below it on. -/
theorem le_significand (hd : 0 < d) {m : Nat} (heven : m % 2 = 0) :
    m ≤ significand n d ↔ ((m : ℚ) - 1 / 2) * 2 ^ lastPlace n d ≤ n / d := by
  rw [significand, le_roundQuotient (scaleRatio_pos two_pos hd n _) heven, scaleRatio_lastPlace,
    le_div_iff₀ (by positivity)]

theorem significand_le (hn : 0 < n) (hd : 0 < d) : significand n d ≤ 2 ^ 53 := by
  have hplaces : log2Ratio n d + 1 ≤ 53 + lastPlace n d := by
    have := le_max_left (log2Ratio n d - 52) leastExponent
    unfold lastPlace
    omega
  have hbelow : (n : ℚ) / d < 2 ^ 53 * 2 ^ lastPlace n d :=
    calc (n : ℚ) / d < 2 ^ (log2Ratio n d + 1) := (log2Ratio_bounds hn hd).2
      _ ≤ 2 ^ (53 + lastPlace n d) := zpow_le_zpow_right₀ (by norm_num) hplaces
      _ = 2 ^ 53 * 2 ^ lastPlace n d := by rw [zpow_add₀ two_ne_zero]; norm_cast
  have hplace : (0 : ℚ) < 2 ^ lastPlace n d := by positivity
  have hnear := (abs_le.mp (significand_near hd n)).2
  have hless : (significand n d : ℚ) * 2 ^ lastPlace n d < (2 ^ 53 + 1) * 2 ^ lastPlace n d := by
    linarith
  have hsmall : (significand n d : ℚ) < 2 ^ 53 + 1 := lt_of_mul_lt_mul_right hless hplace.le
  exact Nat.lt_succ_iff.mp (by exact_mod_cast hsmall)

/-! ## Overflow -/

/-- The number halfway between the greatest double and the next power of two. -/
def overflow : Nat := (2 ^ 54 - 1) * 2 ^ 970

theorem overflow_eq : (overflow : ℚ) = (2 ^ 53 - 1 / 2) * 2 ^ (971 : Int) := by
  have hdouble : (2 : ℚ) ^ (971 : Int) = 2 * 2 ^ 970 := by
    rw [show (971 : Int) = (970 : Nat) + 1 from rfl, zpow_add_one₀ two_ne_zero, zpow_natCast,
      mul_comm]
  have hplaces : ((2 ^ 54 - 1 : Nat) : ℚ) = 2 * (2 ^ 53 - 1 / 2) := by norm_num
  rw [hdouble, overflow, Nat.cast_mul, hplaces, Nat.cast_pow, Nat.cast_ofNat, mul_assoc,
    mul_left_comm]

theorem overflow_bounds :
    (2 : ℚ) ^ (1023 : Int) ≤ overflow ∧ (overflow : ℚ) ≤ 2 ^ (1024 : Int) := by
  rw [overflow_eq, show (1023 : Int) = 52 + 971 from rfl, show (1024 : Int) = 53 + 971 from rfl,
    zpow_add₀ two_ne_zero, zpow_add₀ two_ne_zero]
  constructor
  · gcongr
    norm_num
  · gcongr
    norm_num

/-- A ratio is rounded to an infinite double exactly from `overflow` on. -/
theorem ofRatio_isInfinite (hd : 0 < d) (negative : Bool) (n : Nat) :
    (ofRatio negative n d).isInfinite = true ↔ (overflow : ℚ) ≤ n / d := by
  obtain ⟨hlow, hhigh⟩ := overflow_bounds
  obtain rfl | hn := Nat.eq_zero_or_pos n
  · have hpositive : (0 : ℚ) < overflow := lt_of_lt_of_le (by positivity) hlow
    rw [Nat.cast_zero, zero_div]
    exact iff_of_false nofun (not_le.mpr hpositive)
  obtain ⟨hreached, hnext⟩ := log2Ratio_bounds hn hd
  rw [isInfinite_of_pos hn]
  obtain hbelow | hlast | habove : log2Ratio n d < 1023 ∨ log2Ratio n d = 1023 ∨
      1023 < log2Ratio n d := lt_trichotomy _ _
  · have hfinite : ¬ greatestExponent < carriedPlace n d := by
      unfold carriedPlace lastPlace greatestExponent leastExponent
      split <;> omega
    have hless : (n : ℚ) / d < overflow :=
      calc (n : ℚ) / d < 2 ^ (log2Ratio n d + 1) := hnext
        _ ≤ 2 ^ (1023 : Int) := zpow_le_zpow_right₀ (by norm_num) (by omega)
        _ ≤ overflow := hlow
    exact iff_of_false hfinite (not_le.mpr hless)
  · -- here the place is the greatest one, and everything depends on the carry
    have hplace : lastPlace n d = 971 := by
      unfold lastPlace leastExponent
      omega
    have hcarry : greatestExponent < carriedPlace n d ↔ 2 ^ 53 ≤ significand n d := by
      have hbound := significand_le hn hd
      unfold carriedPlace greatestExponent
      rw [hplace, Nat.pow_eq]
      split <;> omega
    rw [hcarry, le_significand hd (by decide), hplace, overflow_eq, Nat.cast_pow, Nat.cast_ofNat]
  · have hlarge : greatestExponent < carriedPlace n d := by
      unfold carriedPlace lastPlace greatestExponent leastExponent
      split <;> omega
    have hmore : (overflow : ℚ) ≤ n / d :=
      calc (overflow : ℚ) ≤ 2 ^ (1024 : Int) := hhigh
        _ ≤ 2 ^ log2Ratio n d := zpow_le_zpow_right₀ (by norm_num) (by omega)
        _ ≤ n / d := hreached
    exact iff_of_true hlarge hmore

/-! ## Precision -/

/-- A number that is off from another by a part of it at most. -/
def Within (part y x : ℚ) : Prop := x * (1 - part) ≤ y ∧ y ≤ x * (1 + part)

theorem within_of_abs {part y x : ℚ} (h : |y - x| ≤ x * part) : Within part y x := by
  obtain ⟨hlow, hhigh⟩ := abs_le.mp h
  constructor <;> linarith

theorem within_self {part x : ℚ} (hpart : 0 ≤ part) (hx : 0 ≤ x) : Within part x x :=
  within_of_abs (by rw [sub_self, abs_zero]; exact mul_nonneg hx hpart)

theorem Within.scale {part y x c : ℚ} (hc : 0 ≤ c) (h : Within part y x) :
    Within part (y * c) (x * c) := by
  constructor
  · calc x * c * (1 - part) = x * (1 - part) * c := by ring
      _ ≤ y * c := mul_le_mul_of_nonneg_right h.1 hc
  · calc y * c ≤ x * (1 + part) * c := mul_le_mul_of_nonneg_right h.2 hc
      _ = x * c * (1 + part) := by ring

/-- Parts add up in a product, but for their own product. -/
theorem Within.mul {part y₁ x₁ y₂ x₂ : ℚ} (hpart : 0 ≤ part) (hpart' : part ≤ 1) (hx₁ : 0 ≤ x₁)
    (hx₂ : 0 ≤ x₂) (h₁ : Within part y₁ x₁) (h₂ : Within part y₂ x₂) :
    Within (3 * part) (y₁ * y₂) (x₁ * x₂) := by
  have hx : 0 ≤ x₁ * x₂ := mul_nonneg hx₁ hx₂
  have hsquare : part * part ≤ part := mul_le_of_le_one_left hpart hpart'
  have hlow₁ : 0 ≤ x₁ * (1 - part) := mul_nonneg hx₁ (by linarith)
  have hlow₂ : 0 ≤ x₂ * (1 - part) := mul_nonneg hx₂ (by linarith)
  constructor
  · calc x₁ * x₂ * (1 - 3 * part) ≤ x₁ * x₂ * ((1 - part) * (1 - part)) :=
          mul_le_mul_of_nonneg_left (by nlinarith) hx
      _ = x₁ * (1 - part) * (x₂ * (1 - part)) := by ring
      _ ≤ y₁ * y₂ := mul_le_mul h₁.1 h₂.1 hlow₂ (hlow₁.trans h₁.1)
  · calc y₁ * y₂ ≤ x₁ * (1 + part) * (x₂ * (1 + part)) :=
          mul_le_mul h₁.2 h₂.2 (hlow₂.trans h₂.1) (mul_nonneg hx₁ (by linarith))
      _ = x₁ * x₂ * ((1 + part) * (1 + part)) := by ring
      _ ≤ x₁ * x₂ * (1 + 3 * part) := mul_le_mul_of_nonneg_left (by nlinarith) hx

/-- What a finite double is worth, without its sign. -/
def size (x : Double) : Option ℚ := x.ratio?.map fun r => (r.1 : ℚ) / r.2

theorem size_finite (negative : Bool) (s : Nat) (place : Int) :
    (finite negative s place).size = some ((s : ℚ) * 2 ^ place) := by
  rw [size, ratio?, Option.map_some, scaleRatio_div two_pos, Nat.cast_one, div_one, Nat.cast_ofNat]

/-- Half a unit in the last of 53 places, in parts of the first one. -/
def halfUnit : ℚ := 1 / 2 ^ 53

/-- A ratio that is at least one and below `overflow` is off from the double that it is rounded to
by half a unit in its last place at most. -/
theorem ofRatio_near (hn : 0 < n) (hd : 0 < d) (hone : (1 : ℚ) ≤ n / d)
    (hbelow : (n : ℚ) / d < overflow) (negative : Bool) :
    ∃ q, (ofRatio negative n d).size = some q ∧ Within halfUnit q (n / d) := by
  obtain ⟨hreached, hnext⟩ := log2Ratio_bounds hn hd
  have hlog : 0 ≤ log2Ratio n d := by
    have hpower : (2 : ℚ) ^ (0 : Int) < 2 ^ (log2Ratio n d + 1) := by
      rw [zpow_zero]
      exact hone.trans_lt hnext
    have := (zpow_lt_zpow_iff_right₀ (by norm_num : (1 : ℚ) < 2)).mp hpower
    omega
  have hplace : lastPlace n d = log2Ratio n d - 52 := by
    unfold lastPlace leastExponent
    omega
  have hfinite : ¬ greatestExponent < carriedPlace n d := by
    rw [← isInfinite_of_pos hn negative, ofRatio_isInfinite hd, not_le]
    exact hbelow
  -- a carry moves a factor of two from the significand to the place
  have hsize : (ofRatio negative n d).size = some ((significand n d : ℚ) * 2 ^ lastPlace n d) := by
    rw [ofRatio_of_pos hn, if_neg hfinite, size_finite]
    unfold carriedPlace
    split
    · next hcarry =>
        rw [hcarry, zpow_add_one₀ two_ne_zero]
        norm_num
        ring
    · rfl
  refine ⟨_, hsize, within_of_abs ((significand_near hd n).trans ?_)⟩
  calc (2 : ℚ) ^ lastPlace n d / 2 = 2 ^ log2Ratio n d * halfUnit := by
        rw [hplace, zpow_sub₀ two_ne_zero, halfUnit]
        norm_num
        ring
    _ ≤ n / d * halfUnit := mul_le_mul_of_nonneg_right hreached (by norm_num [halfUnit])

/-! ## Numbers -/

theorem size_eq_some {x : Double} {q : ℚ} (h : x.size = some q) :
    ∃ r, x.ratio? = some r ∧ 0 < r.2 ∧ q = r.1 / r.2 := by
  cases x with
  | finite negative s place =>
      exact ⟨_, rfl, scaleRatio_pos two_pos one_pos s place, (Option.some.inj h).symm⟩
  | infinite negative => cases h
  | nan => cases h

theorem ofNat_near (h : n < overflow) :
    ∃ q, (ofNat n).size = some q ∧ Within halfUnit q n := by
  obtain rfl | hn := Nat.eq_zero_or_pos n
  · refine ⟨0, ?_, ?_⟩
    · rw [ofNat, ofRatio, if_pos rfl, zero, size_finite, Nat.cast_zero, zero_mul]
    · rw [Nat.cast_zero]
      exact within_self (by norm_num [halfUnit]) le_rfl
  · have hratio : (n : ℚ) / (1 : Nat) = n := by rw [Nat.cast_one, div_one]
    rw [← hratio, ofNat]
    exact ofRatio_near hn one_pos (by rw [hratio]; exact_mod_cast hn)
      (by rw [hratio]; exact_mod_cast h) false

theorem size_of_isZero {x : Double} (hx : x.isZero = true) : x.size = some 0 := by
  cases x with
  | finite negative s place =>
      obtain rfl : s = 0 := by simpa [isZero] using hx
      rw [size_finite, Nat.cast_zero, zero_mul]
  | infinite negative => cases hx
  | nan => cases hx

theorem isZero_ofNat (h : n < overflow) : (ofNat n).isZero = true ↔ n = 0 := by
  constructor
  · intro hzero
    obtain ⟨q, hq, hnear⟩ := ofNat_near h
    obtain rfl : q = 0 := Option.some.inj (hq.symm.trans (size_of_isZero hzero))
    have hless : (0 : ℚ) < 1 - halfUnit := by norm_num [halfUnit]
    have hnone : (n : ℚ) ≤ 0 := nonpos_of_mul_nonpos_left hnear.1 hless
    exact_mod_cast le_antisymm hnone (Nat.cast_nonneg n)
  · rintro rfl
    rfl

/-- Multiplying with a power of ten overflows if the exact product with the double of that power
does. -/
theorem timesPowerOfTen_isInfinite {x : Double} {q : ℚ} (hx : x.size = some q) {power : Nat}
    (hpower : 10 ^ power < overflow) :
    ∃ t, Within halfUnit t (10 ^ power) ∧
      ((x.timesPowerOfTen power).isInfinite = true ↔ (overflow : ℚ) ≤ q * t) := by
  obtain ⟨a, ha, hapos, rfl⟩ := size_eq_some hx
  obtain ⟨t, ht, hnear⟩ := ofNat_near hpower
  obtain ⟨b, hb, hbpos, rfl⟩ := size_eq_some ht
  refine ⟨_, by exact_mod_cast hnear, ?_⟩
  unfold timesPowerOfTen
  rw [ha, Nat.pow_eq, hb]
  dsimp only
  rw [ofRatio_isInfinite (Nat.mul_pos hapos hbpos), Nat.cast_mul, Nat.cast_mul, mul_div_mul_comm]

end CrudStack.Double
