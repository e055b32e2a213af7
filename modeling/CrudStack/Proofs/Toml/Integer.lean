/-
# `CrudStack.Proofs.Toml.Integer` — the integers of a text are found

An integer has no mark of its own end, and what it begins with could also begin a date or a time.
It is told from those by what is not behind its digits: neither a hyphen nor a colon ends a value.
-/
import CrudStack.Proofs.Text.Taken
import CrudStack.Proofs.Toml.Grammar

namespace CrudStack.Toml

open Text (Stops isAsciiDigit)

/-! ## Ends of values -/

/-- What may come behind a value. -/
def EndsValue (rest : List Char) : Prop :=
  ∀ c, rest.head? = some c → c ∈ [' ', '\t', '\n', '\r', '#', ',', ']', '\x7d']

theorem endsValue_cons {c : Char} {rest : List Char} :
    EndsValue (c :: rest) ↔ c ∈ [' ', '\t', '\n', '\r', '#', ',', ']', '\x7d'] := by
  simp [EndsValue]

/-- A character that could go on with a number, or with a date. -/
def goesOn (c : Char) : Bool :=
  isAsciiDigit c || c ∈ ['_', '.', 'e', 'E', 'x', 'o', 'b', '-', ':', '"', '\'']

theorem EndsValue.over {rest : List Char} (h : EndsValue rest) : Stops goesOn rest := by
  intro c hc
  have hmem := h c hc
  simp only [List.mem_cons, List.not_mem_nil, or_false] at hmem
  rcases hmem with rfl | rfl | rfl | rfl | rfl | rfl | rfl | rfl <;> decide

section Integer

variable {ds rest : List Char}

/-- What comes behind the digits of a number is nothing that could go on with it. -/
theorem over_ne (h : Stops goesOn rest) {c : Char} (hc : goesOn c = true) : rest.head? ≠ some c :=
  fun heq => absurd hc (by rw [h c heq]; decide)

theorem over_stops (h : Stops goesOn rest) : Stops isAsciiDigit rest := fun c hc => by
  have hover := h c hc
  rw [goesOn, Bool.or_eq_false_iff] at hover
  exact hover.1

theorem goesOn_of_isAsciiDigit {c : Char} (h : isAsciiDigit c = true) : goesOn c = true := by
  rw [goesOn, h, Bool.true_or]

/-! ## Neither a date nor a time -/

/-- Behind any of its digits a number goes on with a digit, or it is over. -/
theorem digit_or_over (hds : ds.all isAsciiDigit = true) (hrest : Stops goesOn rest)
    {before after : List Char} (hbefore : before.all isAsciiDigit = true)
    (h : ds ++ rest = before ++ after) {c : Char} (hc : after.head? = some c) :
    isAsciiDigit c = true ∨ goesOn c = false := by
  induction before generalizing ds with
  | nil =>
      rw [List.nil_append] at h
      subst h
      cases ds with
      | nil => exact .inr (hrest c hc)
      | cons d ds =>
          obtain rfl := Option.some.inj hc
          exact .inl (List.all_eq_true.mp hds _ List.mem_cons_self)
  | cons d before ih =>
      rw [List.all_cons, Bool.and_eq_true] at hbefore
      cases ds with
      | nil =>
          rw [List.nil_append] at h
          have hover := hrest d (by rw [h]; rfl)
          rw [goesOn_of_isAsciiDigit hbefore.1] at hover
          cases hover
      | cons d' ds =>
          rw [List.all_cons, Bool.and_eq_true] at hds
          exact ih hds.2 hbefore.2 (List.cons.inj h).2

theorem expect_eq_none {c : Char} {cs : List Char} (h : cs.head? ≠ some c) :
    expect c cs = none := by
  cases cs with
  | nil => rfl
  | cons d cs => exact if_neg fun heq => h (by rw [heq]; rfl)

/-- A mark between the parts of a date is not behind digits of a number. -/
theorem not_mark (hds : ds.all isAsciiDigit = true) (hrest : Stops goesOn rest)
    {before after : List Char} (hbefore : before.all isAsciiDigit = true)
    (h : ds ++ rest = before ++ after) {mark : Char} (hmark : mark = '-' ∨ mark = ':') :
    expect mark after = none := by
  refine expect_eq_none fun hc => ?_
  obtain rfl | rfl := hmark <;> rcases digit_or_over hds hrest hbefore h hc with h | h <;>
    exact absurd h (by decide)

theorem passDate_eq_none (hds : ds.all isAsciiDigit = true) (hrest : Stops goesOn rest) :
    passDate (ds ++ rest) = none := by
  unfold passDate
  split
  · next a b c d tail heq =>
      split
      · next hdigits =>
          rw [not_mark hds hrest hdigits heq (.inl rfl)]
          rfl
      · rfl
  · rfl

theorem passTime_eq_none (hds : ds.all isAsciiDigit = true) (hrest : Stops goesOn rest) :
    passTime (ds ++ rest) = none := by
  rw [passTime, Option.bind_eq_bind, Option.bind_eq_none_iff]
  rintro ⟨n, after⟩ hhour
  have hbefore : ∃ before, before.all isAsciiDigit = true ∧ ds ++ rest = before ++ after := by
    unfold twoDigits at hhour
    split at hhour
    · next a b tail heq =>
        split at hhour
        · next hdigits =>
            simp only at hhour
            split at hhour
            · cases hhour
              exact ⟨[a, b], by simpa using hdigits, heq⟩
            · cases hhour
        · cases hhour
    · cases hhour
  obtain ⟨before, hdigits, heq⟩ := hbefore
  simp only [not_mark hds hrest hdigits heq (.inr rfl)]
  rfl

theorem dateTime_eq_none (hds : ds.all isAsciiDigit = true) (hrest : Stops goesOn rest) :
    dateTime (ds ++ rest) = none := by
  rw [dateTime, passDate_eq_none hds hrest]
  simp [passTime_eq_none hds hrest]

/-- What does not begin with a digit is neither. -/
theorem dateTime_of_not_digit {c : Char} (hc : isAsciiDigit c = false) (cs : List Char) :
    dateTime (c :: cs) = none := by
  have hdate : passDate (c :: cs) = none := by
    unfold passDate
    split
    · next heq =>
        obtain rfl := (List.cons.inj heq).1
        simp [hc]
    · rfl
  have htime : twoDigits 0 23 (c :: cs) = none := by
    unfold twoDigits
    split
    · next heq =>
        obtain rfl := (List.cons.inj heq).1
        simp [hc]
    · rfl
  simp [dateTime, hdate, passTime, htime]

/-! ## Digits -/

theorem moreDigits_append (hds : ds.all isAsciiDigit = true) (hrest : Stops goesOn rest) :
    moreDigits isAsciiDigit (ds ++ rest) = some (ds, rest) := by
  induction ds with
  | nil =>
      cases rest with
      | nil => rfl
      | cons c rest =>
          have hdigit : isAsciiDigit c = false := over_stops hrest c rfl
          have hmark : c ≠ '_' := fun h => over_ne hrest (c := '_') (by decide) (by rw [h]; rfl)
          rw [List.nil_append, moreDigits]
          · simp [hdigit, hmark]
          · exact fun _ _ h _ => hmark h
  | cons c ds ih =>
      rw [List.all_cons, Bool.and_eq_true] at hds
      have hmark : c ≠ '_' := by
        rintro rfl
        exact absurd hds.1 (by decide)
      rw [List.cons_append, moreDigits, if_pos hds.1, ih hds.2]
      · rfl
      · exact fun _ _ h _ => hmark h

theorem digits_append (hne : ds ≠ []) (hds : ds.all isAsciiDigit = true)
    (hrest : Stops goesOn rest) : digits isAsciiDigit (ds ++ rest) = some (ds, rest) := by
  obtain ⟨c, ds, rfl⟩ := List.exists_cons_of_ne_nil hne
  rw [List.all_cons, Bool.and_eq_true] at hds
  rw [List.cons_append, digits, if_pos hds.1, moreDigits_append hds.2 hrest]
  rfl

theorem wholeDigits_append (h : IsWholeNumber ds) (hrest : Stops goesOn rest) :
    wholeDigits (ds ++ rest) = some (ds, rest) := by
  obtain ⟨hne, hds, hzero⟩ := h
  unfold wholeDigits
  split
  · next tail heq =>
      obtain ⟨c, ds', rfl⟩ := List.exists_cons_of_ne_nil hne
      obtain ⟨rfl, htail⟩ := List.cons.inj heq
      obtain ⟨-, rfl⟩ := List.cons.inj (hzero rfl)
      rw [← htail]
      rfl
  · exact digits_append hne hds hrest

theorem unsignedDecimal_append (h : IsWholeNumber ds) (hrest : Stops goesOn rest)
    (negative : Bool) :
    unsignedDecimal negative (ds ++ rest) = (integerOf negative ds).map (·, rest) := by
  have hpoint : rest.head? ≠ some '.' := over_ne hrest (by decide)
  have hlower : rest.head? ≠ some 'e' := over_ne hrest (by decide)
  have hupper : rest.head? ≠ some 'E' := over_ne hrest (by decide)
  rw [unsignedDecimal, wholeDigits_append h hrest]
  simp only [Option.bind_eq_bind, Option.bind_some]
  split
  · exact absurd rfl hpoint
  · exact absurd rfl hlower
  · exact absurd rfl hupper
  · cases integerOf negative ds <;> rfl

/-! ## Integers -/

/-- Behind its sign, a decimal number is none of the words and no number of another base. -/
theorem number_of_sign {cs : List Char}
    (hmark : ∀ c tail, cs = '0' :: c :: tail → c ∉ ['x', 'o', 'b'])
    (hdigit : ∀ c, (sign cs).2.head? = some c → isAsciiDigit c = true) :
    number cs = unsignedDecimal (sign cs).1 (sign cs).2 := by
  unfold number
  split
  · next tail => exact absurd (hmark _ _ rfl) (by decide)
  · next tail => exact absurd (hmark _ _ rfl) (by decide)
  · next tail => exact absurd (hmark _ _ rfl) (by decide)
  · generalize sign cs = signed at hdigit ⊢
    obtain ⟨negative, tail⟩ := signed
    simp only at hdigit ⊢
    split
    · exact absurd (hdigit _ rfl) (by decide)
    · exact absurd (hdigit _ rfl) (by decide)
    · rfl

theorem wholeNumber_head (h : IsWholeNumber ds) :
    ∃ c tail, ds = c :: tail ∧ isAsciiDigit c = true := by
  obtain ⟨c, tail, rfl⟩ := List.exists_cons_of_ne_nil h.1
  exact ⟨c, tail, rfl, List.all_eq_true.mp h.2.1 c List.mem_cons_self⟩

theorem number_append {i : Int} {cs : List Char} (h : IntegerSpelled i cs)
    (hrest : Stops goesOn rest) :
    dateTime (cs ++ rest) = none ∧ number (cs ++ rest) = some (.integer i, rest) := by
  cases h with
  | @plain ds hds hlimit =>
      refine ⟨dateTime_eq_none hds.2.1 hrest, ?_⟩
      obtain ⟨c, tail, rfl, hc⟩ := wholeNumber_head hds
      have hsign : sign (c :: tail ++ rest) = (false, c :: tail ++ rest) := by
        rw [List.cons_append, sign]
        · rintro _ ⟨⟩
          exact absurd hc (by decide)
        · rintro _ ⟨⟩
          exact absurd hc (by decide)
      rw [number_of_sign, hsign, unsignedDecimal_append hds hrest, integerOf]
      · simp [hlimit]
      · intro d more heq hmem
        obtain ⟨rfl, htail⟩ := List.cons.inj heq
        obtain ⟨-, rfl⟩ := List.cons.inj (hds.2.2 rfl)
        have hgoes : goesOn d = true := by
          simp only [List.mem_cons, List.not_mem_nil, or_false] at hmem
          rcases hmem with rfl | rfl | rfl <;> decide
        exact over_ne hrest hgoes (congrArg List.head? htail)
      · rw [hsign]
        rintro d hd
        exact Option.some.inj hd ▸ hc
  | @plus ds hds hlimit =>
      refine ⟨dateTime_of_not_digit (by decide) _, ?_⟩
      obtain ⟨c, tail, rfl, hc⟩ := wholeNumber_head hds
      have hsign : sign ('+' :: (c :: tail ++ rest)) = (false, c :: tail ++ rest) := rfl
      rw [List.cons_append, number_of_sign, hsign, unsignedDecimal_append hds hrest, integerOf]
      · simp [hlimit]
      · rintro _ _ ⟨⟩
      · rw [hsign]
        rintro d hd
        exact Option.some.inj hd ▸ hc
  | @minus ds hds hlimit =>
      refine ⟨dateTime_of_not_digit (by decide) _, ?_⟩
      obtain ⟨c, tail, rfl, hc⟩ := wholeNumber_head hds
      have hsign : sign ('-' :: (c :: tail ++ rest)) = (true, c :: tail ++ rest) := rfl
      rw [List.cons_append, number_of_sign, hsign, unsignedDecimal_append hds hrest, integerOf]
      · simp [hlimit]
      · rintro _ _ ⟨⟩
      · rw [hsign]
        rintro d hd
        exact Option.some.inj hd ▸ hc

/-- An integer begins with a digit or a sign. -/
theorem integer_head {i : Int} {cs : List Char} (h : IntegerSpelled i cs) :
    ∃ c tail, cs = c :: tail ∧ (isAsciiDigit c = true ∨ c = '+' ∨ c = '-') := by
  cases h with
  | plain hds =>
      obtain ⟨c, tail, rfl, hc⟩ := wholeNumber_head hds
      exact ⟨c, tail, rfl, .inl hc⟩
  | plus => exact ⟨_, _, rfl, .inr (.inl rfl)⟩
  | minus => exact ⟨_, _, rfl, .inr (.inr rfl)⟩

end Integer

end CrudStack.Toml
