/-
# `CrudStack.Proofs.Json.Digits` — what a number is worth

What a number is worth, its `magnitude`, is told by its digits and without a reader.  The reader
keeps as many of them as fit in 64 bits, from the front, and counts the others.  So it knows a
number but for a small part: what is kept is near the magnitude (`magnitude_near`).

Digits are dropped in two places.  Those before the point that do not fit are counted, but then the
first one behind the point may fit again and is kept in their place.  Whatever is dropped or
misplaced, eighteen digits in front of it are kept.
-/
import CrudStack.Proofs.Decimal.Rounding
import CrudStack.Proofs.Json.Denoted

namespace CrudStack.Json

open Double (Within)

namespace Literal

/-! ## Digits -/

theorem digitValue_lt {c : Char} (h : Text.isAsciiDigit c = true) : digitValue c < 10 := by
  unfold Text.isAsciiDigit at h
  rw [Bool.and_eq_true, decide_eq_true_eq, decide_eq_true_eq] at h
  unfold digitValue
  omega

theorem foldl_digits (ds : List Char) (n : Nat) :
    ds.foldl (fun n c => n * 10 + digitValue c) n = n * 10 ^ ds.length + natural ds := by
  induction ds generalizing n with
  | nil => simp [natural]
  | cons c ds ih =>
      simp only [natural, List.foldl_cons, List.length_cons, pow_succ'] at ih ⊢
      rw [ih (n * 10 + digitValue c), ih (0 * 10 + digitValue c)]
      ring

theorem natural_cons (c : Char) (ds : List Char) :
    natural (c :: ds) = digitValue c * 10 ^ ds.length + natural ds := by
  rw [natural, List.foldl_cons, foldl_digits, zero_mul, zero_add]

theorem natural_append (as bs : List Char) :
    natural (as ++ bs) = natural as * 10 ^ bs.length + natural bs := by
  rw [natural, List.foldl_append, foldl_digits]
  rfl

theorem natural_lt {ds : List Char} (h : ds.all Text.isAsciiDigit = true) :
    natural ds < 10 ^ ds.length := by
  induction ds with
  | nil => decide
  | cons c ds ih =>
      rw [List.all_cons, Bool.and_eq_true] at h
      have hrest : natural ds < 10 ^ ds.length := ih h.2
      have hfirst : (digitValue c + 1) * 10 ^ ds.length ≤ 10 * 10 ^ ds.length :=
        Nat.mul_le_mul_right _ (digitValue_lt h.1)
      rw [natural_cons, List.length_cons, pow_succ']
      rw [Nat.add_mul] at hfirst
      omega

/-- Digits are taken from the front, as many as fit; if some are left, then the number was about to
pass the limit. -/
theorem absorb_spec (limit : Nat) : ∀ {ds : List Char} {n : Nat},
    ds.all Text.isAsciiDigit = true → n ≤ limit → ∃ taken, ds = taken ++ (absorb limit n ds).2 ∧
      (absorb limit n ds).1 = n * 10 ^ taken.length + natural taken ∧
      (absorb limit n ds).1 ≤ limit ∧
      ((absorb limit n ds).2 = [] ∨ limit < (absorb limit n ds).1 * 10 + 9)
  | [], n, _, hn => ⟨[], rfl, by simp [absorb, natural], hn, .inl rfl⟩
  | c :: ds, n, hds, hn => by
      rw [List.all_cons, Bool.and_eq_true] at hds
      unfold absorb
      dsimp only
      split
      · next hmore =>
          obtain ⟨taken, hsplit, hvalue, hlimit, hleft⟩ := absorb_spec limit hds.2 hmore
          refine ⟨c :: taken, by rw [List.cons_append, ← hsplit], ?_, hlimit, hleft⟩
          rw [hvalue, natural_cons, List.length_cons, pow_succ']
          ring
      · next hmore =>
          have := digitValue_lt hds.1
          exact ⟨[], rfl, by simp [natural], hn, .inr (by omega)⟩

/-! ## What is kept of a number -/

/-- The digits of a number without its point. -/
def digits (l : Literal) : List Char := l.whole ++ l.fraction.getD []

/-- The power of ten that the exponent of a number says. -/
def tens (l : Literal) : Int :=
  match l.exponent with
  | none => 0
  | some (down, ds) => if down then -(natural ds : Int) else natural ds

/-- What a number is worth without its sign. -/
def magnitude (l : Literal) : ℚ :=
  natural l.digits * 10 ^ (l.tens - (l.fraction.getD []).length)

/-- The digits that fit in 64 bits, and the power of ten for the place of the last one. -/
def kept (l : Literal) : Nat × Int :=
  let first := absorb wordLimit 0 l.whole
  let second := absorb wordLimit first.1 (l.fraction.getD [])
  (second.1, first.2.length - ((l.fraction.getD []).length - second.2.length : Nat))

/-- The part of a number that is lost with the digits that do not fit. -/
def lost : ℚ := 1 / 10 ^ 18

/-- Two numbers with the same digits at the front are near each other. -/
theorem within_of_front {front place x y : Nat} (hfront : 10 ^ 18 ≤ front)
    (hx : front * place ≤ x ∧ x ≤ (front + 1) * place)
    (hy : front * place ≤ y ∧ y ≤ (front + 1) * place) : Within lost y x := by
  have hplace : 10 ^ 18 * place ≤ x := (Nat.mul_le_mul_right place hfront).trans hx.1
  rw [Nat.add_mul, Nat.one_mul] at hx hy
  have hlow : x ≤ y + place := by omega
  have hhigh : y ≤ x + place := by omega
  have hplace' : (10 : ℚ) ^ 18 * place ≤ x := by exact_mod_cast hplace
  have hlow' : (x : ℚ) ≤ y + place := by exact_mod_cast hlow
  have hhigh' : (y : ℚ) ≤ x + place := by exact_mod_cast hhigh
  unfold lost
  constructor <;> linarith

/-- Digits are cut off in two places: behind the first part, where the second one then goes on, and
at the end. -/
theorem cut_near {front more behind rest : Nat} {i j k : Nat} (hmore : more < 10 ^ j)
    (hbehind : behind < 10 ^ i) (hrest : rest < 10 ^ k) (hcut : i = 0 ∨ 10 ^ 18 ≤ front)
    (hend : k = 0 ∨ 10 ^ 18 ≤ front * 10 ^ j + more) :
    Within lost ((front * 10 ^ i + behind) * 10 ^ (j + k) + (more * 10 ^ k + rest) : Nat)
      ((front * 10 ^ j + more) * 10 ^ (i + k) : Nat) := by
  obtain rfl | hfront := hcut
  · obtain rfl : behind = 0 := Nat.lt_one_iff.mp hbehind
    have hsame : (front * 10 ^ 0 + 0) * 10 ^ (j + k) + (more * 10 ^ k + rest) =
        (front * 10 ^ j + more) * 10 ^ k + rest := by rw [pow_add]; ring
    rw [hsame, Nat.zero_add]
    obtain rfl | hfront := hend
    · obtain rfl : rest = 0 := Nat.lt_one_iff.mp hrest
      exact Double.within_self (by norm_num [lost]) (Nat.cast_nonneg _)
    · refine within_of_front hfront ⟨le_rfl, ?_⟩ ⟨Nat.le_add_right _ _, ?_⟩
      · exact Nat.mul_le_mul_right _ (Nat.le_succ _)
      · rw [Nat.add_mul _ 1, Nat.one_mul]
        omega
  · have hplace : 10 ^ (i + j + k) = 10 ^ i * 10 ^ (j + k) := by rw [← pow_add, add_assoc]
    have hplace' : 10 ^ (i + j + k) = 10 ^ j * 10 ^ (i + k) := by rw [← pow_add]; congr 1; omega
    have hx : (front * 10 ^ j + more) * 10 ^ (i + k) =
        front * 10 ^ (i + j + k) + more * 10 ^ (i + k) := by rw [hplace']; ring
    have hy : (front * 10 ^ i + behind) * 10 ^ (j + k) + (more * 10 ^ k + rest) =
        front * 10 ^ (i + j + k) + (behind * 10 ^ (j + k) + more * 10 ^ k + rest) := by
      rw [hplace]; ring
    have hxrest : more * 10 ^ (i + k) ≤ 10 ^ (i + j + k) :=
      hplace' ▸ Nat.mul_le_mul_right _ hmore.le
    have hyrest : behind * 10 ^ (j + k) + more * 10 ^ k + rest ≤ 10 ^ (i + j + k) := by
      have hbehind' : (behind + 1) * 10 ^ (j + k) ≤ 10 ^ (i + j + k) :=
        hplace ▸ Nat.mul_le_mul_right _ hbehind
      have hmore' : (more + 1) * 10 ^ k ≤ 10 ^ (j + k) :=
        pow_add 10 j k ▸ Nat.mul_le_mul_right _ hmore
      rw [Nat.add_mul, Nat.one_mul] at hbehind' hmore'
      omega
    rw [hx, hy]
    refine within_of_front hfront ⟨Nat.le_add_right _ _, ?_⟩ ⟨Nat.le_add_right _ _, ?_⟩
    · rw [Nat.add_mul, Nat.one_mul]
      exact Nat.add_le_add_left hxrest _
    · rw [Nat.add_mul, Nat.one_mul]
      exact Nat.add_le_add_left hyrest _

theorem WellFormed.fractionDigits {l : Literal} (hl : l.WellFormed) :
    (l.fraction.getD []).all Text.isAsciiDigit = true := by
  cases h : l.fraction with
  | none => rfl
  | some ds => exact (hl.fraction ds h).2

/-- What is kept is near what the digits say. -/
theorem kept_near {l : Literal} (hl : l.WellFormed) :
    Within lost (natural l.digits * 10 ^ (-(l.fraction.getD []).length : Int))
      (l.kept.1 * 10 ^ l.kept.2) := by
  have hwhole : l.whole.all Text.isAsciiDigit = true := hl.whole.2
  have hfraction := hl.fractionDigits
  have hword : wordLimit = 18446744073709551615 := rfl
  unfold kept digits
  dsimp only
  obtain ⟨front, hsplit, hfront, hlimit, hcut⟩ := absorb_spec wordLimit hwhole (Nat.zero_le _)
  obtain ⟨more, hsplit', hmore, -, hend⟩ := absorb_spec wordLimit hfraction hlimit
  generalize (absorb wordLimit 0 l.whole).2 = behind at *
  generalize (absorb wordLimit 0 l.whole).1 = first at *
  generalize (absorb wordLimit first (l.fraction.getD [])).2 = rest at *
  rw [zero_mul, zero_add] at hfront
  rw [hsplit, List.all_append, Bool.and_eq_true] at hwhole
  rw [hsplit', List.all_append, Bool.and_eq_true] at hfraction
  have hcut' : behind.length = 0 ∨ 10 ^ 18 ≤ first := hcut.imp (by rintro rfl; rfl) (by omega)
  have hend' : rest.length = 0 ∨ 10 ^ 18 ≤ first * 10 ^ more.length + natural more :=
    hend.imp (by rintro rfl; rfl) (by omega)
  have hnear :=
    cut_near (natural_lt hfraction.1) (natural_lt hwhole.2) (natural_lt hfraction.2) hcut' hend'
  have hdigits : natural (l.whole ++ l.fraction.getD []) =
      (first * 10 ^ behind.length + natural behind) * 10 ^ (more.length + rest.length) +
        (natural more * 10 ^ rest.length + natural rest) := by
    rw [hsplit, hsplit', natural_append, natural_append, natural_append, hfront,
      List.length_append]
  have hkept : (((first * 10 ^ more.length + natural more) * 10 ^ (behind.length + rest.length) :
      Nat) : ℚ) * 10 ^ (-(more.length + rest.length : Int)) =
        (first * 10 ^ more.length + natural more : Nat) *
          10 ^ (behind.length - more.length : Int) := by
    rw [Nat.cast_mul, mul_assoc, Nat.cast_pow, Nat.cast_ofNat, ← zpow_natCast,
      ← zpow_add₀ (by norm_num)]
    congr 2
    push_cast
    ring
  have hlength : (l.fraction.getD []).length - rest.length = more.length := by
    rw [hsplit', List.length_append, Nat.add_sub_cancel]
  rw [hdigits, hmore, hlength, hsplit', List.length_append, ← hkept, Nat.cast_add more.length]
  exact hnear.scale (by positivity)

theorem kept_le {l : Literal} (hl : l.WellFormed) : l.kept.1 ≤ wordLimit := by
  obtain ⟨_, -, -, hlimit, -⟩ := absorb_spec wordLimit hl.whole.2 (Nat.zero_le _)
  obtain ⟨_, -, -, hlimit', -⟩ := absorb_spec wordLimit hl.fractionDigits hlimit
  exact hlimit'

/-- What a number is worth is near what is kept of it. -/
theorem magnitude_near {l : Literal} (hl : l.WellFormed) :
    Within lost l.magnitude (l.kept.1 * 10 ^ (l.kept.2 + l.tens)) := by
  have hten : (10 : ℚ) ≠ 0 := by norm_num
  have hscaled := (kept_near hl).scale (c := 10 ^ l.tens) (by positivity)
  rw [mul_assoc, mul_assoc, ← zpow_add₀ hten, ← zpow_add₀ hten, neg_add_eq_sub] at hscaled
  exact hscaled

/-- Nothing is kept of digits that say nothing, and of no others. -/
theorem kept_eq_zero {l : Literal} (hl : l.WellFormed) : l.kept.1 = 0 ↔ natural l.digits = 0 := by
  have hplace : ∀ k : Int, (10 : ℚ) ^ k ≠ 0 := fun k => zpow_ne_zero k (by norm_num)
  obtain ⟨hlow, hhigh⟩ := kept_near hl
  constructor
  · intro h
    rw [h, Nat.cast_zero, zero_mul, zero_mul] at hhigh
    have hzero := le_antisymm hhigh (by positivity)
    exact_mod_cast (mul_eq_zero.mp hzero).resolve_right (hplace _)
  · intro h
    rw [h, Nat.cast_zero, zero_mul] at hlow
    have hpart : (0 : ℚ) < 1 - lost := by norm_num [lost]
    have hzero := le_antisymm (nonpos_of_mul_nonpos_left hlow hpart) (by positivity)
    exact_mod_cast (mul_eq_zero.mp hzero).resolve_right (hplace _)

/-- The digits of a number and its exponent bound its magnitude from both sides. -/
theorem le_magnitude {l : Literal} (h : natural l.digits ≠ 0) :
    (10 : ℚ) ^ (l.tens - (l.fraction.getD []).length) ≤ l.magnitude :=
  le_mul_of_one_le_left (by positivity) (Nat.one_le_cast.mpr (Nat.one_le_iff_ne_zero.mpr h))

theorem magnitude_lt {l : Literal} (hl : l.WellFormed) :
    l.magnitude < 10 ^ (l.whole.length + l.tens) := by
  have hall : l.digits.all Text.isAsciiDigit = true := by
    rw [digits, List.all_append, hl.whole.2, hl.fractionDigits]
    rfl
  have hnat : (natural l.digits : ℚ) < 10 ^ (l.digits.length : Int) := by
    rw [zpow_natCast]
    exact_mod_cast natural_lt hall
  calc l.magnitude
      < 10 ^ (l.digits.length : Int) * 10 ^ (l.tens - (l.fraction.getD []).length) :=
        mul_lt_mul_of_pos_right hnat (by positivity)
    _ = 10 ^ (l.whole.length + l.tens) := by
        rw [← zpow_add₀ (by norm_num), digits, List.length_append]
        congr 1
        push_cast
        ring

end Literal

/-! ## The numbers of a text -/

/-- A number may stand in a text: it is well-formed, and the text has room for its digits. -/
structure Literal.FitsIn (l : Literal) (cs : List Char) : Prop where
  wellFormed : l.WellFormed
  digits : l.digits.length ≤ cs.length

section FitsIn

variable {l : Literal} {cs own : List Char} {spelled : List Char → Prop}

theorem Literal.FitsIn.mono (h : l.FitsIn own) (hle : own.length ≤ cs.length) : l.FitsIn cs :=
  ⟨h.wellFormed, h.digits.trans hle⟩

theorem Literal.Spelled.fitsIn (h : l.Spelled cs) : l.FitsIn cs := by
  obtain ⟨hl, tail, -, rfl⟩ := h
  refine ⟨hl, ?_⟩
  have hfraction : (l.fraction.getD []).length ≤ (fractionText l.fraction).length := by
    cases l.fraction with
    | none => rfl
    | some ds => exact Nat.le_succ _
  simp only [digits, List.length_append]
  omega

theorem fitsIn_of_padded (h : Padded spelled cs) (hown : ∀ {own}, spelled own → l.FitsIn own) :
    l.FitsIn cs := by
  obtain ⟨before, own, after, -, hspelled, -, rfl⟩ := h
  refine (hown hspelled).mono ?_
  simp only [List.length_append]
  omega

theorem fitsIn_of_entry {key : String} (h : EntrySpelled key spelled cs)
    (hown : ∀ {own}, spelled own → l.FitsIn own) : l.FitsIn cs := by
  obtain ⟨before, quoted, after, own, -, -, -, hpadded, rfl⟩ := h
  refine (fitsIn_of_padded hpadded hown).mono ?_
  simp only [List.length_append, List.length_cons]
  omega

end FitsIn

mutual

/-- The numbers of a value fit in its texts. -/
theorem fitsIn_of_spelled : ∀ (v : Value) {cs : List Char}, v.Spelled cs →
    ∀ l ∈ v.numbers, l.FitsIn cs
  | .null, _, _, _, hl => by cases hl
  | .bool _, _, _, _, hl => by cases hl
  | .text _, _, _, _, hl => by cases hl
  | .number l, _, h, _, hl => List.mem_singleton.mp hl ▸ h.fitsIn
  | .list [], _, _, _, hl => by cases hl
  | .object [], _, _, _, hl => by cases hl
  | .list (v :: vs), _, h, l, hl => by
      obtain ⟨own, tail, hv, hvs, rfl⟩ := h
      have hparts : l.FitsIn (',' :: (own ++ tail)) :=
        fitsIn_of_items (v :: vs) ⟨own, tail, hv, hvs, rfl⟩ l hl
      exact hparts.mono (by simp)
  | .object ((key, v) :: ms), _, h, l, hl => by
      obtain ⟨own, tail, hv, hms, rfl⟩ := h
      have hparts : l.FitsIn (',' :: (own ++ tail)) :=
        fitsIn_of_members ((key, v) :: ms) ⟨own, tail, hv, hms, rfl⟩ l hl
      exact hparts.mono (by simp)

theorem fitsIn_of_items : ∀ (vs : List Value) {cs : List Char}, ItemsSpelled vs cs →
    ∀ l ∈ itemsNumbers vs, l.FitsIn cs
  | [], _, _, _, hl => by cases hl
  | v :: vs, _, h, l, hl => by
      obtain ⟨own, tail, hv, hvs, rfl⟩ := h
      obtain hl | hl := List.mem_append.mp hl
      · exact (fitsIn_of_padded hv fun h => fitsIn_of_spelled v h l hl).mono (by simp; omega)
      · exact (fitsIn_of_items vs hvs l hl).mono (by simp; omega)

theorem fitsIn_of_members : ∀ (ms : List (String × Value)) {cs : List Char}, MembersSpelled ms cs →
    ∀ l ∈ membersNumbers ms, l.FitsIn cs
  | [], _, _, _, hl => by cases hl
  | (_, v) :: ms, _, h, l, hl => by
      obtain ⟨own, tail, hv, hms, rfl⟩ := h
      obtain hl | hl := List.mem_append.mp hl
      · exact (fitsIn_of_entry hv fun h => fitsIn_of_spelled v h l hl).mono (by simp; omega)
      · exact (fitsIn_of_members ms hms l hl).mono (by simp; omega)

end

theorem Value.IsTextOf.fitsIn {v : Value} {text : String} (h : v.IsTextOf text) {l : Literal}
    (hl : l ∈ v.numbers) : l.FitsIn text.toList :=
  fitsIn_of_padded h fun h => fitsIn_of_spelled v h l hl

end CrudStack.Json
