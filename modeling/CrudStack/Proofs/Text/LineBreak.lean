/-
# `CrudStack.Proofs.Text.LineBreak` — the lines of a text

Generated texts are put together from lines.  Reading a text by its line breaks gives these lines
back as long as none of them has a line break of its own (`textLines_joinLines`).  A line break can
only come from a name, and to write a name in lower case makes none (`newline_notMem_lower`).
-/
import CrudStack.Naming
import CrudStack.Template
import CrudStack.Proofs.Text.Lowered

namespace CrudStack

/-- The texts between the line breaks of a text. -/
def textLines (text : String) : List String := (text.toList.splitOn '\n').map String.ofList

namespace Template

theorem toList_joinLines (lines : List String) :
    (joinLines lines).toList = ['\n'].intercalate (lines.map String.toList ++ [[]]) := by
  induction lines with
  | nil => simp [joinLines]
  | cons line rest ih =>
      have hcons : joinLines (line :: rest) = line ++ "\n" ++ joinLines rest := by
        simp [joinLines]
      rw [hcons, String.toList_append, String.toList_append, ih]
      cases rest with
      | nil => simp
      | cons next more => simp [List.intercalate]

theorem textLines_joinLines {lines : List String} (h : ∀ line ∈ lines, '\n' ∉ line.toList) :
    textLines (joinLines lines) = lines ++ [""] := by
  have hlines : ∀ line ∈ lines.map String.toList ++ [[]], '\n' ∉ line := by
    intro line hline
    rcases List.mem_append.mp hline with hline | hline
    · obtain ⟨text, htext, rfl⟩ := List.mem_map.mp hline
      exact h text htext
    · rw [List.mem_singleton.mp hline]
      exact List.not_mem_nil
  rw [textLines, toList_joinLines, List.splitOn_intercalate '\n' hlines (by simp), List.map_append,
    List.map_map]
  simp [Function.comp_def]

/-- Lines without line breaks at the beginning of a text are read back, whatever comes below. -/
theorem textLines_joinLines_append {lines : List String} (h : ∀ line ∈ lines, '\n' ∉ line.toList)
    (rest : List String) :
    textLines (joinLines (lines ++ rest)) = lines ++ textLines (joinLines rest) := by
  induction lines with
  | nil => rfl
  | cons line lines ih =>
      have hfirst : (joinLines (line :: (lines ++ rest))).toList =
          line.toList ++ '\n' :: (joinLines (lines ++ rest)).toList := by
        simp [joinLines]
      have ih := ih fun l hl => h l (List.mem_cons_of_mem _ hl)
      rw [textLines] at ih
      rw [List.cons_append, List.cons_append, textLines, hfirst, List.splitOn_append_cons_self,
        List.splitOn_eq_singleton (h line List.mem_cons_self), List.singleton_append, List.map_cons,
        String.ofList_toList, ih]

end Template

/-! ## Lower case -/

namespace Text

theorem eq_newline_of_ofNat {code : Nat} (h : Char.ofNat code = '\n') : code = 10 := by
  by_cases hvalid : code.isValidChar
  · rw [Char.ofNat, dif_pos hvalid] at h
    exact congrArg Char.toNat h
  · rw [Char.ofNat, dif_neg hvalid] at h
    cases h

/-- No character but the line break itself has a line break in its lower case. -/
theorem newline_notMem_lowerChar {c : Char} (h : c ≠ '\n') : '\n' ∉ lowerChar c := by
  have hspellings : ∀ e ∈ lowerSpellings, 10 ∉ e.2 := by decide
  have hshifts : ∀ s ∈ lowerShifts, 10 < s.image := by decide +kernel
  intro hmem
  rw [lowerChar] at hmem
  rcases caseImage_cases lowerSpellings lowerShifts c with
    ⟨e, he, -, himage⟩ | ⟨s, hs, -, himage⟩ | himage
  · rw [himage] at hmem
    obtain ⟨code, hcode, heq⟩ := List.mem_map.mp hmem
    exact hspellings e he (eq_newline_of_ofNat heq ▸ hcode)
  · rw [himage] at hmem
    have hten := eq_newline_of_ofNat (List.mem_singleton.mp hmem).symm
    have hlow := hshifts s hs
    omega
  · rw [himage] at hmem
    exact h (List.mem_singleton.mp hmem).symm

theorem newline_notMem_lowerAfter {cs : List Char} (h : '\n' ∉ cs) (before : List Char) :
    '\n' ∉ lowerAfter before cs := by
  induction cs generalizing before with
  | nil => exact List.not_mem_nil
  | cons c rest ih =>
      rw [List.mem_cons, not_or] at h
      unfold lowerAfter
      rw [List.mem_append, not_or]
      refine ⟨?_, ih h.2 _⟩
      split
      · split <;> decide
      · exact newline_notMem_lowerChar (Ne.symm h.1)

theorem newline_notMem_lower {s : String} (h : '\n' ∉ s.toList) : '\n' ∉ (lower s).toList := by
  rw [lower, String.toList_ofList]
  exact newline_notMem_lowerAfter h []

end Text

end CrudStack
