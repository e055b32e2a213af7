/-
# `CrudStack.Proofs.Toml.Quoted` — written strings, keys and integers are spelled

The writer chooses one of five forms for a string.  Each of them is one that the grammar gives, for
the strings that the writer puts into it: between single quotes nothing is escaped, and so nothing
may stand there that would have to be.
-/
import CrudStack.Proofs.Toml.Grammar
import CrudStack.Toml.Writer
import Mathlib.Data.List.Basic

namespace CrudStack.Toml

open Text (isAsciiDigit)

/-! ## Escaped characters -/

/-- A code point in four digits denotes its character, if it is a control character. -/
theorem codeEscape_spelled {c : Char} (h : c.toNat < 0x20 ∨ c.toNat = 0x7f) :
    ∃ e, codeEscape c = '\\' :: e ∧ EscapeSpelled c e := by
  have hall :
      ∀ n < 0x80, n < 0x20 ∨ n = 0x7f → ∃ ds, codeEscape (Char.ofNat n) = '\\' :: 'u' :: ds ∧
      ds.length = 4 ∧ hexDigits? ds = some n ∧ Text.charOfCode? n = some (Char.ofNat n) := by
    intro n hn hcontrol
    refine ⟨(codeEscape (Char.ofNat n)).drop 2, ?_⟩
    revert n
    decide +kernel
  obtain ⟨ds, heq, hlength, hds, hchar⟩ := hall c.toNat (by omega) h
  rw [Char.ofNat_toNat] at heq hchar
  exact ⟨_, heq, .code (by rw [hlength]; decide) hds hchar⟩

/-- Between double quotes a character is escaped, or it stands for itself. -/
theorem escapeChar_cases (c : Char) :
    (∃ e, escapeChar c = '\\' :: e ∧ EscapeSpelled c e) ∨
      escapeChar c = [c] ∧ c ≠ '"' ∧ c ≠ '\\' ∧ isPlain c = true := by
  unfold escapeChar
  split
  · next h =>
      subst h
      exact .inl ⟨['b'], rfl, .short (by decide)⟩
  split
  · next h =>
      subst h
      exact .inl ⟨['t'], rfl, .short (by decide)⟩
  split
  · next h =>
      subst h
      exact .inl ⟨['n'], rfl, .short (by decide)⟩
  split
  · next h =>
      subst h
      exact .inl ⟨['f'], rfl, .short (by decide)⟩
  split
  · next h =>
      subst h
      exact .inl ⟨['r'], rfl, .short (by decide)⟩
  split
  · next h =>
      subst h
      exact .inl ⟨['"'], rfl, .short (by decide)⟩
  split
  · next h =>
      subst h
      exact .inl ⟨['\\'], rfl, .short (by decide)⟩
  split
  · next h => exact .inl (codeEscape_spelled (by simpa using h))
  · next hquote hslash h =>
      refine .inr ⟨rfl, hquote, hslash, ?_⟩
      simp only [Bool.or_eq_true, decide_eq_true_eq, not_or, Nat.not_lt] at h
      simp [isPlain, h]

/-! ## Strings -/

section Strings

variable {cs : List Char}

theorem basicSpelled_escaped (cs : List Char) : BasicSpelled cs (cs.flatMap escapeChar) := by
  induction cs with
  | nil => exact .nil
  | cons c cs ih =>
      rw [List.flatMap_cons]
      obtain ⟨e, heq, he⟩ | ⟨heq, hquote, hslash, hplain⟩ := escapeChar_cases c
      · rw [heq]
        exact .escape he ih
      · rw [heq]
        exact .plain hquote hslash hplain ih

theorem longBasicSpelled_escaped (cs : List Char) :
    LongBasicSpelled cs (cs.flatMap escapeLineChar) := by
  induction cs with
  | nil => exact .nil
  | cons c cs ih =>
      rw [List.flatMap_cons, escapeLineChar]
      split
      · next h => exact h ▸ .lineBreak .lf ih
      · obtain ⟨e, heq, he⟩ | ⟨heq, hquote, hslash, hplain⟩ := escapeChar_cases c
        · rw [heq]
          exact .escape he ih
        · rw [heq]
          exact .plain hquote hslash hplain ih

theorem isPlain_of_not_control {c : Char} (h : isRawControl c = false) (hlf : c ≠ '\n') :
    isPlain c = true := by
  simp only [isRawControl, Bool.or_eq_false_iff, Bool.and_eq_false_iff, decide_eq_false_iff_not,
    Nat.not_lt] at h
  simp only [isPlain, Bool.or_eq_true, Bool.and_eq_true, decide_eq_true_eq]
  obtain ⟨(h | h) | h, hdelete⟩ := h
  · exact .inr ⟨h, hdelete⟩
  · exact .inl (by simpa using h)
  · exact absurd (by simpa using h) hlf

/-- What can stand between three single quotes as it is: no control character but line feeds and
tabs, no three quotes, and no quote at the end. -/
structure IsRaw (cs : List Char) : Prop where
  control : ∀ c ∈ cs, isRawControl c = false
  triple : hasTripleQuote cs = false
  last : cs.getLast? ≠ some '\''

theorem IsRaw.tail {c : Char} (h : IsRaw (c :: cs)) : IsRaw cs := by
  refine ⟨(List.forall_mem_cons.mp h.control).2, ?_, fun hend => h.last ?_⟩
  · have htriple := h.triple
    unfold hasTripleQuote at htriple
    split at htriple
    · cases htriple
    · next heq => exact (List.cons.inj heq).2 ▸ htriple
    · next heq => cases heq
  · rw [List.getLast?_cons, hend]
    rfl

/-- By induction on the length: one or two quotes are taken together. -/
theorem longLiteralSpelled_raw (hraw : IsRaw cs) : LongLiteralSpelled cs cs := by
  induction h : cs.length using Nat.strongRecOn generalizing cs with
  | _ n ih =>
    have hshorter : ∀ cs' : List Char, cs'.length < cs.length → IsRaw cs' →
        LongLiteralSpelled cs' cs' := fun cs' hlength hcs' => ih _ (h ▸ hlength) hcs' rfl
    match cs, hraw with
    | [], _ => exact .nil
    | c :: rest, hraw =>
      by_cases hquote : c = '\''
      · subst hquote
        match rest, hraw with
        | [], hraw => exact absurd rfl hraw.last
        | d :: rest, hraw =>
          by_cases hquote' : d = '\''
          · subst hquote'
            match rest, hraw with
            | [], hraw => exact absurd rfl hraw.last
            | e :: rest, hraw =>
              have hthird : e ≠ '\'' := by
                rintro rfl
                exact absurd hraw.triple (by simp [hasTripleQuote])
              exact .quotes (.inr rfl) (List.cons_ne_nil e rest)
                (fun heq => hthird (Option.some.inj heq))
                (hshorter (e :: rest) (by simp) hraw.tail.tail)
          · exact .quotes (.inl rfl) (List.cons_ne_nil d rest)
              (fun heq => hquote' (Option.some.inj heq)) (hshorter (d :: rest) (by simp) hraw.tail)
      · have hothers := hshorter rest (by simp) hraw.tail
        by_cases hlf : c = '\n'
        · subst hlf
          exact .lineBreak .lf hothers
        · exact .plain hquote (isPlain_of_not_control (hraw.control c List.mem_cons_self) hlf)
            hothers

theorem isRaw_of_prefersLiteral (h : prefersLiteral cs = true) : IsRaw cs := by
  simp only [prefersLiteral, Bool.and_eq_true, Bool.not_eq_true', List.any_eq_false,
    decide_eq_true_eq] at h
  obtain ⟨⟨⟨-, hcontrol⟩, htriple⟩, hlast⟩ := h
  exact ⟨fun c hc => by simpa using hcontrol c hc, htriple, by simpa using hlast⟩

/-- What has neither quotes nor line feeds can stand between single quotes. -/
theorem IsRaw.isLiteral (h : IsRaw cs) (hquote : '\'' ∉ cs) (hlf : '\n' ∉ cs) : IsLiteral cs :=
  fun c hc => ⟨fun heq => hquote (heq ▸ hc),
    isPlain_of_not_control (h.control c hc) fun heq => hlf (heq ▸ hc)⟩

/-- A string is written as one of its texts. -/
theorem stringSpelled_chars (s : String) : StringSpelled s (stringChars s.toList) := by
  have hself : String.ofList (s.toList ++ []) = s := by rw [List.append_nil, String.ofList_toList]
  have hlong : ∀ {quote : Char}, LastQuotes quote [] := .inl rfl
  unfold stringChars
  split
  · next hliteral =>
      have hraw := isRaw_of_prefersLiteral hliteral
      split
      · have hspelled := StringSpelled.longLiteral (.inl .lf) (longLiteralSpelled_raw hraw) hlong
        rwa [hself] at hspelled
      split
      · next hlf _ =>
          have hfirst : FirstBreak [] (s.toList ++ []) := by
            rw [List.append_nil]
            refine .inr ⟨rfl, fun heq => ?_, fun heq => ?_⟩
            · exact hlf (List.elem_iff.mpr (List.mem_of_head? heq))
            · exact absurd (hraw.control _ (List.mem_of_head? heq)) (by decide)
          have hspelled := StringSpelled.longLiteral hfirst (longLiteralSpelled_raw hraw) hlong
          rwa [hself] at hspelled
      · next hlf hquote =>
          exact .short (.literal (hraw.isLiteral (by simpa using hquote) (by simpa using hlf)))
  split
  · have hspelled := StringSpelled.longBasic (.inl .lf) (longBasicSpelled_escaped s.toList) hlong
    rwa [hself] at hspelled
  · exact .short (.basic (basicSpelled_escaped s.toList))

end Strings

/-! ## Keys -/

theorem keyPartSpelled_chars (part : String) : KeyPartSpelled part (keyChars part) := by
  rw [keyChars]
  split
  · next hbare =>
      rw [Bool.and_eq_true, Bool.not_eq_true', List.isEmpty_eq_false_iff] at hbare
      exact .bare hbare.1 hbare.2
  split
  · next hliteral =>
      simp only [Bool.and_eq_true, Bool.not_eq_true'] at hliteral
      obtain ⟨⟨hraw, hquote⟩, hlf⟩ := hliteral
      exact .quoted (.literal ((isRaw_of_prefersLiteral hraw).isLiteral (by simpa using hquote)
        (by simpa using hlf)))
  · exact .quoted (.basic (basicSpelled_escaped part.toList))

theorem blanks_nil : Blanks [] := rfl

/-- A path is written with dots and without blanks. -/
theorem keySpelled_path {path : List String} (h : path ≠ []) :
    KeySpelled path (pathChars path) := by
  induction path with
  | nil => exact absurd rfl h
  | cons part path ih =>
      have hpart := keyPartSpelled_chars part
      cases path with
      | nil =>
          have hlast := KeySpelled.last blanks_nil hpart blanks_nil
          rw [List.nil_append, List.append_nil] at hlast
          rwa [pathChars, List.map_singleton, List.intercalate_singleton]
      | cons next path => exact .dot blanks_nil hpart blanks_nil (ih (List.cons_ne_nil _ _))

/-! ## Integers -/

theorem toNat_of_isDigit {c : Char} (h : c.isDigit = true) : 0x30 ≤ c.toNat ∧ c.toNat ≤ 0x39 :=
  Char.isDigit_iff_toNat.mp h

theorem digitsValue_toDigits (n : Nat) : Text.digitsValue 10 (Nat.toDigits 10 n) = n := by
  refine Eq.trans ?_ (Nat.ofDigitChars_ten_toDigits (n := n))
  rw [Text.digitsValue, Nat.ofDigitChars_eq_foldl]
  refine List.foldl_ext _ _ _ fun m c hc => ?_
  have hdigit := toNat_of_isDigit (Nat.isDigit_of_mem_toDigits (by decide) (by decide) hc)
  rw [Text.hexValue?, if_pos hdigit, Nat.mul_comm]
  rfl

theorem toDigits_head {n : Nat} (hn : 0 < n) : (Nat.toDigits 10 n).head? ≠ some '0' := by
  induction n using Nat.strongRecOn with
  | _ n ih =>
    by_cases hsmall : n < 10
    · have hall : ∀ n < 10, 0 < n → n.digitChar ≠ '0' := by decide
      rw [Nat.toDigits_of_lt_base hsmall]
      exact fun heq => hall n hsmall hn (Option.some.inj heq)
    · have hshorter := ih (n / 10) (by omega) (by omega)
      rw [Nat.toDigits_of_base_le (by decide) (Nat.not_lt.mp hsmall)]
      obtain ⟨c, tail, heq⟩ :=
        List.exists_cons_of_ne_nil (Nat.toDigits_ne_nil (n := n / 10) (b := 10))
      rw [heq] at hshorter ⊢
      exact hshorter

theorem isWholeNumber_toDigits (n : Nat) : IsWholeNumber (Nat.toDigits 10 n) := by
  refine ⟨Nat.toDigits_ne_nil, List.all_eq_true.mpr fun c hc => ?_, fun hhead => ?_⟩
  · obtain ⟨hlow, hhigh⟩ :=
      toNat_of_isDigit (Nat.isDigit_of_mem_toDigits (by decide) (by decide) hc)
    simp [isAsciiDigit, hlow, hhigh]
  · obtain rfl | hn := Nat.eq_zero_or_pos n
    · rfl
    · exact absurd hhead (toDigits_head hn)

/-- An integer of 64 bits is written as one of its texts. -/
theorem integerSpelled_chars {i : Int} (hlow : -(integerLimit : Int) ≤ i)
    (hhigh : i < integerLimit) :
    IntegerSpelled i (toString i).toList := by
  have hvalue := digitsValue_toDigits i.natAbs
  have hwhole := isWholeNumber_toDigits i.natAbs
  rw [Int.toString_eq_repr, Int.repr_eq_if]
  split
  · next hpos =>
      have hspelled := IntegerSpelled.plain hwhole (by omega)
      rw [hvalue, Int.natAbs_of_nonneg hpos] at hspelled
      rwa [Nat.toList_repr, show i.toNat = i.natAbs by omega]
  · next hneg =>
      have hspelled := IntegerSpelled.minus hwhole (by omega)
      rw [hvalue, Int.ofNat_natAbs_of_nonpos (by omega), Int.neg_neg] at hspelled
      rw [String.toList_append, Nat.toList_repr, show (-i).toNat = i.natAbs by omega]
      exact hspelled

end CrudStack.Toml
