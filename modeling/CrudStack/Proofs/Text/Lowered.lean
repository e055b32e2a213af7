/-
# `CrudStack.Proofs.Text.Lowered` — texts with a lower case in ASCII

Lower case is given by tables for all of Unicode, and they lead into ASCII from two places outside
of it: the Kelvin sign becomes `k`, and the lower case of the dotted capital `İ` begins with an `i`
but goes on with a combining dot.  So where a text is to be a word of ASCII without a `k`, its lower
case is one just if the text is one up to the case of the letters A to Z (`lowerChars_eq_iff`).
-/
import CrudStack.Text.Case
import Mathlib.Data.String.Basic

namespace CrudStack.Text

/-! ## Stretches -/

/-- No code point lies between the ends of both stretches. -/
def Stretch.apart (s t : Stretch) : Bool := Nat.blt s.last t.first || Nat.blt t.last s.first

theorem Stretch.has_of_apart {s t : Stretch} (h : s.apart t = true) {code : Nat}
    (hs : s.first ≤ code ∧ code ≤ s.last) : t.has code = false := by
  simp only [apart, Bool.or_eq_true, Nat.blt_eq] at h
  simp only [has, Bool.and_eq_false_imp, Bool.and_eq_true, decide_eq_true_eq]
  omega

theorem Stretch.anyHas_of_apart {s : Stretch} {table : List Stretch}
    (h : table.all s.apart = true) {c : Char} (hs : s.first ≤ c.toNat ∧ c.toNat ≤ s.last) :
    anyHas table c = false := by
  refine List.any_eq_false.mpr fun t ht => ?_
  rw [has_of_apart (List.all_eq_true.mp h t ht) hs]
  exact Bool.false_ne_true

/-! ## The image of a character -/

/-- The image of a character is spelled out, or it is where a shift of its stretch leads, or the
character itself. -/
theorem caseImage_cases (spellings : List (Nat × List Nat)) (shifts : List Shift) (c : Char) :
    (∃ e ∈ spellings, c.toNat = e.1 ∧ caseImage spellings shifts c = e.2.map Char.ofNat) ∨
    (∃ s ∈ shifts, s.domain.has c.toNat = true ∧
      caseImage spellings shifts c = [Char.ofNat (s.image + (c.toNat - s.domain.first))]) ∨
    caseImage spellings shifts c = [c] := by
  unfold caseImage
  cases hspelled : spellings.lookup c.toNat with
  | some codes =>
      obtain ⟨before, after, hsplit, -⟩ := List.lookup_eq_some_iff.mp hspelled
      refine .inl ⟨(c.toNat, codes), ?_, rfl, rfl⟩
      rw [hsplit]
      exact List.mem_append_right _ List.mem_cons_self
  | none =>
      cases hshifted : Shift.find? shifts c.toNat with
      | some code =>
          obtain ⟨s, hs, rfl⟩ := Option.map_eq_some_iff.mp hshifted
          have hhas := List.find?_some hs
          exact .inr (.inl ⟨s, List.mem_of_find?_eq_some hs, hhas, rfl⟩)
      | none => exact .inr (.inr rfl)

/-- What is true of all of ASCII is true of a character of ASCII. -/
theorem ascii_induction {P : Char → Prop} (h : ∀ n < 128, P (Char.ofNat n)) {c : Char}
    (hc : c.toNat < 128) : P c := by
  have hchar := h c.toNat hc
  rwa [Char.ofNat_toNat] at hchar

theorem toNat_lt_of_alphanumeric {c : Char} (h : isAsciiAlphanumeric c = true) : c.toNat < 128 := by
  simp only [isAsciiAlphanumeric, Bool.or_eq_true, Bool.and_eq_true, decide_eq_true_eq] at h
  omega

/-- Where tables have one shift within ASCII, it decides about the characters of ASCII. -/
theorem caseImage_of_ascii {spellings : List (Nat × List Nat)} {s : Shift} {shifts : List Shift}
    (hspellings : spellings.all (fun e => Nat.ble 128 e.1) = true)
    (hshifts : shifts.all (fun s => Nat.ble 128 s.domain.first) = true) {c : Char}
    (h : c.toNat < 128) : caseImage spellings (s :: shifts) c = caseImage [] [s] c := by
  have hspelled : spellings.lookup c.toNat = none := by
    refine List.lookup_eq_none_iff.mpr fun e he => ?_
    have hlarge := Nat.le_of_ble_eq_true (List.all_eq_true.mp hspellings e he)
    exact bne_iff_ne.mpr (by omega)
  have hshifted : shifts.find? (·.domain.has c.toNat) = none := by
    refine List.find?_eq_none.mpr fun t ht hhas => ?_
    have hlarge := Nat.le_of_ble_eq_true (List.all_eq_true.mp hshifts t ht)
    simp only [Stretch.has, Bool.and_eq_true, decide_eq_true_eq] at hhas
    omega
  simp only [caseImage, hspelled, List.lookup_nil, Shift.find?, List.find?_cons, hshifted,
    List.find?_nil]

theorem lowerChar_of_ascii {c : Char} (h : c.toNat < 128) : lowerChar c = [asciiLower c] := by
  have himage : lowerChar c = caseImage [] [⟨⟨0x41, 0x5a, 1⟩, 0x61⟩] c :=
    caseImage_of_ascii (by decide +kernel) (by decide +kernel) h
  rw [himage]
  exact ascii_induction (P := fun c => caseImage [] [⟨⟨0x41, 0x5a, 1⟩, 0x61⟩] c = [asciiLower c])
    (by decide +kernel) h

theorem upperChar_of_ascii {c : Char} (h : c.toNat < 128) : upperChar c = [asciiUpper c] := by
  have himage : upperChar c = caseImage [] [⟨⟨0x61, 0x7a, 1⟩, 0x41⟩] c :=
    caseImage_of_ascii (by decide +kernel) (by decide +kernel) h
  rw [himage]
  exact ascii_induction (P := fun c => caseImage [] [⟨⟨0x61, 0x7a, 1⟩, 0x41⟩] c = [asciiUpper c])
    (by decide +kernel) h

theorem asciiLower_of_not_ascii {c : Char} (h : 128 ≤ c.toNat) : asciiLower c = c := by
  refine if_neg ?_
  simp only [Bool.and_eq_true, decide_eq_true_eq]
  omega

/-- Nothing between two code points is a surrogate or beyond the last one. -/
def Scalars (first last : Nat) : Prop := last < 0xd800 ∨ 0xdfff < first ∧ last < 0x110000

instance (first last : Nat) : Decidable (Scalars first last) := inferInstanceAs (Decidable (_ ∨ _))

theorem toNat_ofNat_of_scalars {first last code : Nat} (h : Scalars first last)
    (hfirst : first ≤ code) (hlast : code ≤ last) : (Char.ofNat code).toNat = code := by
  have hvalid : code.isValidChar := by
    rcases h with h | ⟨h, h'⟩
    · exact .inl (Nat.lt_of_le_of_lt hlast h)
    · exact .inr ⟨Nat.lt_of_lt_of_le h hfirst, Nat.lt_of_le_of_lt hlast h'⟩
  rw [Char.ofNat, dif_pos hvalid]
  rfl

/-- A shift of the lower case leads from ASCII, from the Kelvin sign, or to a place outside
ASCII. -/
theorem lowerShifts_cases {s : Shift} (h : s ∈ lowerShifts) :
    s.domain.last < 128 ∨ s = ⟨⟨0x212a, 0x212a, 1⟩, 0x6b⟩ ∨
      (128 ≤ s.image ∧ Scalars s.image (s.image + (s.domain.last - s.domain.first))) := by
  revert s
  decide +kernel

/-- The lower case of a character outside ASCII ends in a character outside ASCII, or in a `k`. -/
theorem lowerChar_ends {c : Char} (h : 128 ≤ c.toNat) :
    ∃ front x, lowerChar c = front ++ [x] ∧ (128 ≤ x.toNat ∨ x = 'k') := by
  have hspellings : ∀ e ∈ lowerSpellings,
      (e.2.getLast?.any fun code => 128 ≤ (Char.ofNat code).toNat) = true := by
    decide +kernel
  rw [lowerChar]
  rcases caseImage_cases lowerSpellings lowerShifts c with
    ⟨e, he, -, himage⟩ | ⟨s, hs, hhas, himage⟩ | himage
  · obtain ⟨code, hcode, hlarge⟩ := Option.any_eq_true _ _ |>.mp (hspellings e he)
    obtain ⟨front, hfront⟩ := List.getLast?_eq_some_iff.mp hcode
    refine ⟨front.map Char.ofNat, Char.ofNat code, ?_, .inl (of_decide_eq_true hlarge)⟩
    rw [himage, hfront, List.map_append, List.map_singleton]
  · refine ⟨[], _, himage, ?_⟩
    simp only [Stretch.has, Bool.and_eq_true, decide_eq_true_eq] at hhas
    obtain ⟨⟨hfirst, hlast⟩, -⟩ := hhas
    rcases lowerShifts_cases hs with hlow | rfl | ⟨hlarge, hscalars⟩
    · omega
    · right
      have hkelvin : c.toNat = 0x212a := Nat.le_antisymm hlast hfirst
      rw [hkelvin]
      decide
    · left
      rw [toNat_ofNat_of_scalars hscalars (by omega) (by omega)]
      omega
  · exact ⟨[], c, himage, .inl h⟩

/-! ## The image of a character at its place -/

/-- The lower case of a character between what comes before, read backwards, and what comes
behind. -/
def imageAt (before : List Char) (c : Char) (rest : List Char) : List Char :=
  if c = 'Σ' then [if meetsCased before && !meetsCased rest then 'ς' else 'σ'] else lowerChar c

theorem lowerAfter_cons (before : List Char) (c : Char) (rest : List Char) :
    lowerAfter before (c :: rest) = imageAt before c rest ++ lowerAfter (c :: before) rest := rfl

theorem imageAt_of_ascii {c : Char} (h : c.toNat < 128) (before rest : List Char) :
    imageAt before c rest = [asciiLower c] := by
  have hsigma : c ≠ 'Σ' := by
    rintro rfl
    exact absurd h (by decide)
  rw [imageAt, if_neg hsigma, lowerChar_of_ascii h]

/-- Outside of ASCII an image ends outside of ASCII, or in a `k`. -/
theorem imageAt_ends {c : Char} (h : 128 ≤ c.toNat) (before rest : List Char) :
    ∃ front x, imageAt before c rest = front ++ [x] ∧ (128 ≤ x.toNat ∨ x = 'k') := by
  unfold imageAt
  split
  · refine ⟨[], _, rfl, .inl ?_⟩
    split <;> decide
  · exact lowerChar_ends h

theorem imageAt_ne_nil (before : List Char) (c : Char) (rest : List Char) :
    imageAt before c rest ≠ [] := by
  by_cases h : c.toNat < 128
  · rw [imageAt_of_ascii h]
    exact List.cons_ne_nil _ _
  · obtain ⟨front, x, himage, -⟩ := imageAt_ends (Nat.le_of_not_lt h) before rest
    rw [himage]
    exact List.append_ne_nil_of_right_ne_nil _ (List.cons_ne_nil _ _)

/-- A text has at least as many characters in lower case. -/
theorem length_le_lowerAfter (before cs : List Char) :
    cs.length ≤ (lowerAfter before cs).length := by
  induction cs generalizing before with
  | nil => exact Nat.le_refl _
  | cons c rest ih =>
      have himage := List.length_pos_of_ne_nil (imageAt_ne_nil before c rest)
      have hrest := ih (c :: before)
      rw [lowerAfter_cons, List.length_append, List.length_cons]
      omega

/-! ## Words of ASCII -/

/-- In ASCII the lower case is that of the letters A to Z. -/
theorem lowerAfter_of_ascii {cs : List Char} (h : ∀ c ∈ cs, c.toNat < 128) (before : List Char) :
    lowerAfter before cs = cs.map asciiLower := by
  induction cs generalizing before with
  | nil => rfl
  | cons c rest ih =>
      rw [lowerAfter_cons, imageAt_of_ascii (h c List.mem_cons_self),
        ih fun x hx => h x (List.mem_cons_of_mem c hx)]
      rfl

/-- The lower case of a text is a word without `k` just if the letters A to Z are all that keeps the
text from being this word. -/
theorem lowerAfter_eq_iff {word : List Char} (hword : ∀ x ∈ word, x.toNat < 128 ∧ x ≠ 'k')
    {before cs : List Char} : lowerAfter before cs = word ↔ cs.map asciiLower = word := by
  induction cs generalizing before word with
  | nil => rfl
  | cons c rest ih =>
      have hforeign : ∀ {x : Char}, 128 ≤ x.toNat ∨ x = 'k' → x ∉ word := by
        intro x hx hmem
        obtain ⟨hsmall, hk⟩ := hword x hmem
        rcases hx with hx | hx
        · exact Nat.not_lt.mpr hx hsmall
        · exact hk hx
      by_cases hc : c.toNat < 128
      · rw [lowerAfter_cons, imageAt_of_ascii hc, List.map_cons, List.singleton_append]
        cases word with
        | nil => exact iff_of_false (List.cons_ne_nil _ _) (List.cons_ne_nil _ _)
        | cons x word =>
            rw [List.cons.injEq, List.cons.injEq,
              ih fun y hy => hword y (List.mem_cons_of_mem x hy)]
      · have hlarge : 128 ≤ c.toNat := Nat.le_of_not_lt hc
        refine iff_of_false ?_ ?_
        · rintro rfl
          obtain ⟨front, x, himage, hout⟩ := imageAt_ends hlarge before rest
          refine hforeign hout ?_
          rw [lowerAfter_cons, himage]
          exact List.mem_append_left _ (List.mem_append_right _ (List.mem_singleton_self x))
        · rintro rfl
          refine hforeign (.inl hlarge) ?_
          rw [List.map_cons, asciiLower_of_not_ascii hlarge]
          exact List.mem_cons_self

theorem lowerChars_eq_iff {word : List Char} (hword : ∀ x ∈ word, x.toNat < 128 ∧ x ≠ 'k')
    {cs : List Char} : lowerChars cs = word ↔ cs.map asciiLower = word :=
  lowerAfter_eq_iff hword

/-- The lower case of a text ends in a word without `k` just if the text does, up to the letters A
to Z. -/
theorem suffix_lowerAfter_iff {word : List Char} (hword : ∀ x ∈ word, x.toNat < 128 ∧ x ≠ 'k')
    {before cs : List Char} : word <:+ lowerAfter before cs ↔
      ∃ front ending, cs = front ++ ending ∧ ending.map asciiLower = word := by
  constructor
  · intro h
    induction cs generalizing before with
    | nil => exact ⟨[], [], rfl, (List.suffix_nil.mp h).symm⟩
    | cons c rest ih =>
        rw [lowerAfter_cons] at h
        by_cases hrest : word <:+ lowerAfter (c :: before) rest
        · obtain ⟨front, ending, rfl, hending⟩ := ih hrest
          exact ⟨c :: front, ending, rfl, hending⟩
        · -- The word reaches into the image of `c`, so it holds the last character of that image.
          obtain ⟨own, rfl⟩ :=
            (List.suffix_or_suffix_of_suffix h (List.suffix_append _ _)).resolve_left hrest
          obtain ⟨front, hfront⟩ := h
          rw [← List.append_assoc, List.append_cancel_right_eq] at hfront
          have hne : own ≠ [] := fun hnil => hrest (by rw [hnil]; exact List.suffix_refl _)
          by_cases hc : c.toNat < 128
          · rw [imageAt_of_ascii hc, List.append_eq_singleton_iff] at hfront
            obtain ⟨-, rfl⟩ := hfront.resolve_right fun h => hne h.2
            refine ⟨[], c :: rest, rfl, ?_⟩
            rw [List.map_cons, List.singleton_append, List.cons_inj_right]
            exact (lowerAfter_eq_iff fun x hx => hword x (List.mem_append_right _ hx)).mp rfl
          · obtain ⟨begin, x, himage, hout⟩ := imageAt_ends (Nat.le_of_not_lt hc) before rest
            have hlast : own.getLast? = some x := by
              rw [← List.getLast?_append_of_ne_nil front hne, hfront, himage, List.getLast?_concat]
            obtain ⟨hsmall, hk⟩ := hword x (List.mem_append_left _ (List.mem_of_getLast? hlast))
            exact (hout.elim (Nat.not_le.mpr hsmall) hk).elim
  · rintro ⟨front, ending, rfl, hending⟩
    induction front generalizing before with
    | nil => exact ⟨[], ((lowerAfter_eq_iff hword).mpr hending).symm⟩
    | cons c front ih =>
        rw [List.cons_append, lowerAfter_cons]
        exact ih.trans (List.suffix_append _ _)

/-- The Kelvin sign stands for a `k`, and the dotted capital for no `i`. -/
example : lowerChars ['\u212a'] = ['k'] ∧ lowerChars ['\u0130'] = ['i', '\u0307'] := by
  decide +kernel

end CrudStack.Text
