/-
# `CrudStack.Proofs.Text.Spelled` — words that are recognised among blanks and in any case

A word is recognised in a text after trimming and in lower case.  What such texts look like can be
said without trimming and without tables: white space, the word with some of its letters in upper
case, and white space again (`Spells`).  That this is the same is due to the words, which have small
letters of ASCII only and no `k` (`lower_trim_eq_iff`).
-/
import CrudStack.Proofs.Text.Lowered
import CrudStack.Proofs.Text.Taken

namespace CrudStack.Text

/-! ## Blanks around a text -/

section Trimming

variable {before word after : List Char}

/-- What trimming takes away at both ends is white space. -/
theorem exists_trimChars (cs : List Char) : ∃ before after, cs = before ++ trimChars cs ++ after ∧
    (∀ c ∈ before, isBlank c = true) ∧ ∀ c ∈ after, isBlank c = true := by
  have hfront := List.takeWhile_append_dropWhile (p := isBlank) (l := cs)
  have hback := List.takeWhile_append_dropWhile (p := isBlank) (l := (cs.dropWhile isBlank).reverse)
  refine ⟨cs.takeWhile isBlank, ((cs.dropWhile isBlank).reverse.takeWhile isBlank).reverse, ?_,
    ?_, ?_⟩
  · rw [trimChars, List.append_assoc, ← List.reverse_append, hback, List.reverse_reverse, hfront]
  · intro c hc
    exact List.mem_takeWhile_imp hc
  · intro c hc
    exact List.mem_takeWhile_imp (List.mem_reverse.mp hc)

/-- Trimming leaves a word of which it takes nothing away. -/
theorem trimChars_append (hbefore : ∀ c ∈ before, isBlank c = true)
    (hafter : ∀ c ∈ after, isBlank c = true) (hne : word ≠ [])
    (hword : ∀ c ∈ word, isBlank c = false) : trimChars (before ++ word ++ after) = word := by
  have hstops : ∀ {cs rest : List Char}, cs ≠ [] → (∀ c ∈ cs, isBlank c = false) →
      Stops isBlank (cs ++ rest) := by
    intro cs rest hcs hall c hc
    rw [List.head?_append_of_ne_nil _ hcs] at hc
    exact hall c (List.mem_of_head? hc)
  have hreversed : ∀ c ∈ word.reverse, isBlank c = false := by
    intro c hc
    exact hword c (List.mem_reverse.mp hc)
  have hback : Stops isBlank (word.reverse ++ []) :=
    hstops (mt List.reverse_eq_nil_iff.mp hne) hreversed
  rw [List.append_nil] at hback
  rw [trimChars, List.append_assoc, dropWhile_append hbefore (hstops hne hword),
    List.reverse_append, dropWhile_append (fun c hc => hafter c (List.mem_reverse.mp hc)) hback,
    List.reverse_reverse]

end Trimming

/-! ## Spellings of a word -/

/-- A text that is a word between white space, with any of the letters A to Z instead of the small
ones. -/
def Spells (text word : String) : Prop :=
  ∃ before letters after, text.toList = before ++ letters ++ after ∧
    (∀ c ∈ before, isBlank c = true) ∧ (∀ c ∈ after, isBlank c = true) ∧
    letters.map asciiLower = word.toList

/-- A small letter of ASCII that no other character than its capital has for its lower case. -/
def IsSteady (c : Char) : Prop := (0x61 ≤ c.toNat ∧ c.toNat ≤ 0x7a) ∧ c ≠ 'k'

instance (c : Char) : Decidable (IsSteady c) := inferInstanceAs (Decidable (_ ∧ _))

/-- A letter is no white space, in either case. -/
theorem isBlank_of_steady {c : Char} (h : IsSteady (asciiLower c)) : isBlank c = false := by
  by_cases hc : c.toNat < 128
  · exact ascii_induction (P := fun c => IsSteady (asciiLower c) → isBlank c = false)
      (by decide +kernel) hc h
  · have hlarge : 128 ≤ c.toNat := Nat.le_of_not_lt hc
    rw [asciiLower_of_not_ascii hlarge] at h
    exact absurd h.1.2 (by omega)

theorem lower_trim_eq_iff {text word : String} (hne : word ≠ "")
    (hword : ∀ c ∈ word.toList, IsSteady c) : lower (trim text) = word ↔ Spells text word := by
  have hascii : ∀ x ∈ word.toList, x.toNat < 128 ∧ x ≠ 'k' := by
    intro x hx
    obtain ⟨⟨-, hlast⟩, hk⟩ := hword x hx
    exact ⟨by omega, hk⟩
  have hletters :
      lower (trim text) = word ↔ (trimChars text.toList).map asciiLower = word.toList := by
    rw [← String.toList_inj, lower, trim, String.toList_ofList, String.toList_ofList]
    exact lowerChars_eq_iff hascii
  rw [hletters]
  constructor
  · intro h
    obtain ⟨before, after, htext, hbefore, hafter⟩ := exists_trimChars text.toList
    exact ⟨before, _, after, htext, hbefore, hafter, h⟩
  · rintro ⟨before, letters, after, htext, hbefore, hafter, h⟩
    have hblank : ∀ c ∈ letters, isBlank c = false := by
      intro c hc
      exact isBlank_of_steady (hword _ (h ▸ List.mem_map_of_mem hc))
    have hsome : letters ≠ [] := by
      rintro rfl
      exact hne (String.toList_eq_nil_iff.mp h.symm)
    rw [htext, trimChars_append hbefore hafter hsome hblank, h]

end CrudStack.Text
