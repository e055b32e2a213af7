/-
# `CrudStack.Proofs.Json.Lexed` — the lexemes of a text are found

Whatever the grammar gives as the text of a word, a number or a string is recognized as that, with
nothing left over and nothing else taken.  A number has no mark of its own end, so what follows it
matters: it must be something that can follow a value.
-/
import CrudStack.Proofs.Json.Denoted
import Mathlib.Data.List.TakeDrop

namespace CrudStack.Json

/-! ## Blanks -/

theorem skipBlanks_append {blanks : List Char} (h : Blanks blanks) (offset : Nat)
    (rest : List Char) :
    skipBlanks offset (blanks ++ rest) = skipBlanks (offset + blanks.length) rest := by
  induction blanks generalizing offset with
  | nil => rfl
  | cons c cs ih =>
      rw [Blanks, List.all_cons, Bool.and_eq_true] at h
      rw [List.cons_append, skipBlanks, if_pos h.1, ih h.2, List.length_cons, Nat.add_right_comm,
        Nat.add_assoc]

theorem skipBlanks_of_not {c : Char} (h : isBlank c = false) (offset : Nat) (rest : List Char) :
    skipBlanks offset (c :: rest) = ⟨offset, c :: rest⟩ := by
  rw [skipBlanks, h, if_neg Bool.false_ne_true]

/-! ## Words -/

theorem lexWord_append (value : Document) (word rest : List Char) (offset : Nat) :
    lexWord value offset word (word ++ rest) = .found (.ok value) ⟨offset + word.length, rest⟩ := by
  induction word generalizing offset with
  | nil => rfl
  | cons c word ih =>
      rw [List.cons_append, lexWord, if_pos rfl, ih, List.length_cons, Nat.add_right_comm,
        Nat.add_assoc]

/-! ## Numbers -/

/-- What may come behind a value. -/
def EndsValue (rest : List Char) : Prop :=
  ∀ c, rest.head? = some c → isBlank c = true ∨ c = ',' ∨ c = ']' ∨ c = '\x7d'

/-- A number is over where a value is. -/
theorem number_over {rest : List Char} (h : EndsValue rest) {c : Char} (hc : rest.head? = some c) :
    Text.isAsciiDigit c = false ∧ c ≠ '.' ∧ c ≠ 'e' ∧ c ≠ 'E' := by
  rcases h c hc with hblank | rfl | rfl | rfl
  · simp only [isBlank, Bool.or_eq_true, decide_eq_true_eq] at hblank
    rcases hblank with ((rfl | rfl) | rfl) | rfl <;> decide
  · decide
  · decide
  · decide

/-- Digits are split from what does not begin with one. -/
theorem splitDigits_append {ds rest : List Char} (hds : ds.all Text.isAsciiDigit = true)
    (hrest : ∀ c, rest.head? = some c → Text.isAsciiDigit c = false) :
    splitDigits (ds ++ rest) = (ds, rest) := by
  have hdigits : ∀ c ∈ ds, Text.isAsciiDigit c = true := List.all_eq_true.mp hds
  have hnone : rest.takeWhile Text.isAsciiDigit = [] ∧ rest.dropWhile Text.isAsciiDigit = rest := by
    cases rest with
    | nil => exact ⟨rfl, rfl⟩
    | cons c cs =>
        have hc := hrest c rfl
        exact ⟨List.takeWhile_cons_of_neg (by simp [hc]), List.dropWhile_cons_of_neg (by simp [hc])⟩
  rw [splitDigits, List.span_eq_takeWhile_dropWhile, List.takeWhile_append_of_pos hdigits,
    List.dropWhile_append_of_pos hdigits, hnone.1, hnone.2, List.append_nil]

/-- Neither a digit nor a point begins what follows the digits of a number. -/
theorem exponent_head {exponent : Option (Bool × List Char)} {tail rest : List Char}
    (h : ExponentSpelled exponent tail) (hrest : EndsValue rest) {c : Char}
    (hc : (tail ++ rest).head? = some c) : Text.isAsciiDigit c = false ∧ c ≠ '.' := by
  have hletter : ∀ {e : Char}, e = 'e' ∨ e = 'E' → Text.isAsciiDigit e = false ∧ e ≠ '.' := by
    rintro e (rfl | rfl) <;> decide
  cases h with
  | absent => exact ⟨(number_over hrest hc).1, (number_over hrest hc).2.1⟩
  | unsigned he => exact Option.some.inj hc ▸ hletter he
  | up he => exact Option.some.inj hc ▸ hletter he
  | down he => exact Option.some.inj hc ▸ hletter he

theorem lexExponent_append {n : Numeral} (hn : n.exponent = none)
    {exponent : Option (Bool × List Char)} {tail rest : List Char}
    (h : ExponentSpelled exponent tail)
    (hdigits : ∀ down ds, exponent = some (down, ds) → IsDigits ds) (hrest : EndsValue rest)
    (offset : Nat) :
    ∃ a b next, lexExponent n ⟨offset, tail ++ rest⟩ =
      .found (Numeral.value { n with exponent := exponent, exponentOffset := a, stop := b })
        ⟨next, rest⟩ := by
  have hsplit : ∀ {d : Char} {ds : List Char}, (d :: ds).all Text.isAsciiDigit = true →
      splitDigits (d :: (ds ++ rest)) = (d :: ds, rest) :=
    fun hall => splitDigits_append hall fun c hc => (number_over hrest hc).1
  cases h with
  | absent =>
      refine ⟨n.exponentOffset, offset, offset, ?_⟩
      rw [← hn]
      cases rest with
      | nil => rfl
      | cons c cs =>
          have hc := (number_over hrest rfl : _ ∧ _ ∧ c ≠ 'e' ∧ c ≠ 'E').2.2
          simp only [lexExponent, List.nil_append, if_neg (not_or.mpr hc)]
  | unsigned he =>
      obtain ⟨hne, hall⟩ := hdigits _ _ rfl
      obtain ⟨d, ds, rfl⟩ := List.exists_cons_of_ne_nil hne
      have hd : Text.isAsciiDigit d = true := List.all_eq_true.mp hall d List.mem_cons_self
      have hplus : d ≠ '+' := by
        rintro rfl
        exact absurd hd (by decide)
      have hminus : d ≠ '-' := by
        rintro rfl
        exact absurd hd (by decide)
      refine ⟨offset + 1 + 0, offset + 1 + 0 + (d :: ds).length,
        offset + 1 + 0 + (d :: ds).length, ?_⟩
      simp only [lexExponent, List.cons_append, if_pos he, List.cons.injEq, hplus, hminus,
        false_and, false_implies, implies_true, hsplit hall]
  | up he =>
      obtain ⟨hne, hall⟩ := hdigits _ _ rfl
      obtain ⟨d, ds, rfl⟩ := List.exists_cons_of_ne_nil hne
      refine ⟨offset + 1 + 1, offset + 1 + 1 + (d :: ds).length,
        offset + 1 + 1 + (d :: ds).length, ?_⟩
      simp only [lexExponent, List.cons_append, if_pos he, hsplit hall]
  | down he =>
      obtain ⟨hne, hall⟩ := hdigits _ _ rfl
      obtain ⟨d, ds, rfl⟩ := List.exists_cons_of_ne_nil hne
      refine ⟨offset + 1 + 1, offset + 1 + 1 + (d :: ds).length,
        offset + 1 + 1 + (d :: ds).length, ?_⟩
      simp only [lexExponent, List.cons_append, if_pos he, hsplit hall]

theorem lexFraction_append {n : Numeral} (hfree : n.fraction = none ∧ n.exponent = none)
    {fraction : Option (List Char)} {exponent : Option (Bool × List Char)} {tail rest : List Char}
    (hfraction : ∀ ds, fraction = some ds → IsDigits ds) (h : ExponentSpelled exponent tail)
    (hdigits : ∀ down ds, exponent = some (down, ds) → IsDigits ds) (hrest : EndsValue rest)
    (offset : Nat) :
    ∃ a b next, lexFraction n ⟨offset, Literal.fractionText fraction ++ (tail ++ rest)⟩ =
      .found (Numeral.value
        { n with fraction := fraction, exponent := exponent, exponentOffset := a, stop := b })
        ⟨next, rest⟩ := by
  obtain ⟨negative, whole, _, _, place, stop⟩ := n
  obtain ⟨rfl, rfl⟩ := hfree
  cases fraction with
  | none =>
      obtain ⟨a, b, next, heq⟩ := lexExponent_append
        (n := ⟨negative, whole, none, none, place, stop⟩) rfl h hdigits hrest offset
      refine ⟨a, b, next, ?_⟩
      rw [← heq, Literal.fractionText, List.nil_append, lexFraction]
      split
      · next cs hcs => exact absurd rfl (exponent_head h hrest (congrArg List.head? hcs)).2
      · rfl
  | some ds =>
      obtain ⟨hne, hall⟩ := hfraction ds rfl
      obtain ⟨a, b, next, heq⟩ := lexExponent_append
        (n := ⟨negative, whole, some ds, none, place, stop⟩) rfl h hdigits hrest
        (offset + 1 + ds.length)
      refine ⟨a, b, next, ?_⟩
      have hsplit : splitDigits (ds ++ (tail ++ rest)) = (ds, tail ++ rest) :=
        splitDigits_append hall fun c hc => (exponent_head h hrest hc).1
      rw [← heq]
      obtain ⟨d, ds, rfl⟩ := List.exists_cons_of_ne_nil hne
      simp only [lexFraction, Literal.fractionText, List.cons_append] at hsplit ⊢
      simp only [hsplit]

theorem lexUnsigned_append {l : Literal} (hl : l.WellFormed) {tail rest : List Char}
    (h : ExponentSpelled l.exponent tail) (hrest : EndsValue rest) (offset : Nat) :
    ∃ a b next, lexUnsigned l.negative
        ⟨offset, l.whole ++ (Literal.fractionText l.fraction ++ (tail ++ rest))⟩ =
      .found (l.numeral a b).value ⟨next, rest⟩ := by
  obtain ⟨negative, whole, fraction, exponent⟩ := l
  obtain ⟨⟨hne, hall⟩, hleading, hfraction, hexponent⟩ := hl
  obtain ⟨a, b, next, heq⟩ := lexFraction_append (n := ⟨negative, whole, none, none, 0, 0⟩)
    ⟨rfl, rfl⟩ hfraction h hexponent hrest (offset + whole.length)
  refine ⟨a, b, next, ?_⟩
  have hover : ∀ c, (Literal.fractionText fraction ++ (tail ++ rest)).head? = some c →
      Text.isAsciiDigit c = false := by
    intro c hc
    cases fraction with
    | none => exact (exponent_head h hrest hc).1
    | some ds => cases hc; decide
  rw [lexUnsigned, splitDigits_append hall hover]
  split
  · next hempty => exact absurd (Prod.mk.inj hempty).1 hne
  · next x y ys hzero =>
      obtain ⟨rfl, rfl⟩ := Prod.mk.inj hzero
      cases hleading rfl
  · next hdigits =>
      obtain ⟨rfl, rfl⟩ := Prod.mk.inj hdigits
      exact heq

/-- The scanner finds the number that is there. -/
theorem lexNumber_append {l : Literal} {cs rest : List Char} (h : l.Spelled cs)
    (hrest : EndsValue rest) (offset : Nat) :
    ∃ a b next, lexNumber ⟨offset, cs ++ rest⟩ = .found (l.numeral a b).value ⟨next, rest⟩ := by
  obtain ⟨hl, tail, htail, rfl⟩ := h
  obtain ⟨negative, whole, fraction, exponent⟩ := l
  simp only [List.append_assoc]
  cases negative with
  | true => exact lexUnsigned_append hl htail hrest (offset + 1)
  | false =>
      obtain ⟨a, b, next, heq⟩ := lexUnsigned_append hl htail hrest offset
      refine ⟨a, b, next, ?_⟩
      rw [← heq, lexNumber]
      split
      · next cs hcs =>
          obtain ⟨d, ds, rfl⟩ := List.exists_cons_of_ne_nil hl.whole.1
          have hd : d = '-' := (List.cons.inj hcs).1
          subst hd
          exact absurd (List.all_eq_true.mp hl.whole.2 _ List.mem_cons_self) (by decide)
      · rfl

/-! ## Strings -/

theorem readString_append {cs body : List Char} (h : CharsSpelled cs body) (offset : Nat)
    (read rest : List Char) :
    ∃ next, readString offset read (body ++ '"' :: rest) =
      .ok (String.ofList (read.reverse ++ cs), ⟨next, rest⟩) := by
  -- The characters that were read are kept in reverse, so one more goes in front of them.
  have hmore : ∀ (c : Char) (read cs : List Char),
      (c :: read).reverse ++ cs = read.reverse ++ c :: cs := fun c read cs => by
    rw [List.reverse_cons, List.append_assoc, List.singleton_append]
  induction h generalizing offset read with
  | nil => exact ⟨offset + 1, by rw [List.nil_append, readString, List.append_nil]⟩
  | @plain c cs body hquote hslash hcontrol _ ih =>
      obtain ⟨next, heq⟩ := ih (offset + c.utf8Size) (c :: read)
      refine ⟨next, ?_⟩
      rw [List.cons_append, readString, if_neg (Nat.not_lt.mpr hcontrol), heq, hmore]
      all_goals
        intros
        contradiction
  | @short c e cs body hshort _ ih =>
      obtain ⟨next, heq⟩ := ih (offset + 2) (c :: read)
      refine ⟨next, ?_⟩
      have hu : e ≠ 'u' := by
        rintro rfl
        cases hshort
      rw [List.cons_append, List.cons_append, readString, hshort]
      · simp only
        rw [heq, hmore]
      all_goals
        intros
        contradiction
  | @code a b c d n cs body hex hlead htrail _ ih =>
      obtain ⟨next, heq⟩ := ih (offset + 6) (Char.ofNat n :: read)
      refine ⟨next, ?_⟩
      simp only [List.cons_append, readString, hex, hlead, htrail, Bool.false_eq_true, if_false]
      rw [heq, hmore]
  | @pair a b c d e f g i lead trail cs body hfirst hlead hsecond htrail _ ih =>
      obtain ⟨next, heq⟩ := ih (offset + 12) (pairChar lead trail :: read)
      refine ⟨next, ?_⟩
      have hnot : isTrailing lead = false := by
        simp only [isLeading, isTrailing, Bool.and_eq_true, decide_eq_true_eq,
          Bool.and_eq_false_iff, decide_eq_false_iff_not] at hlead ⊢
        omega
      simp only [List.cons_append, readString, hfirst, hlead, hsecond, htrail, hnot,
        Bool.false_eq_true, if_false, if_true]
      rw [heq, hmore]

/-- The scanner finds the string that is there. -/
theorem lexString_append {s : String} {body : List Char} (h : CharsSpelled s.toList body)
    (offset : Nat) (rest : List Char) :
    ∃ next, lexString ⟨offset, body ++ '"' :: rest⟩ = .found (.ok s) ⟨next, rest⟩ := by
  obtain ⟨next, heq⟩ := readString_append h offset [] rest
  refine ⟨next, ?_⟩
  rw [lexString, heq, List.reverse_nil, List.nil_append, String.ofList_toList]

end CrudStack.Json
