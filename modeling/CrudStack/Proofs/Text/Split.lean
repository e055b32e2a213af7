/-
# `CrudStack.Proofs.Text.Split` — the pieces of a text

Paths, packages and the names of variables are read piece by piece, with a separator between the
pieces.  Put together again the pieces are the text (`List.intercalate_splitOn`), so each of them is
a stretch of it, and no character but a separator is lost (`mem_piece_or_eq`).
-/
import Mathlib.Data.List.Basic

namespace CrudStack

namespace Text

variable {separator : Char}

theorem splitOn_separator (cs : List Char) :
    (separator :: cs).splitOn separator = [] :: cs.splitOn separator := by
  rw [List.splitOn_cons_eq_if_modifyHead, if_pos (beq_self_eq_true separator)]

theorem splitOn_cons {c : Char} (h : c ≠ separator) {cs piece : List Char}
    {more : List (List Char)} (hcs : cs.splitOn separator = piece :: more) :
    (c :: cs).splitOn separator = (c :: piece) :: more := by
  rw [List.splitOn_cons_eq_if_modifyHead, if_neg (by simpa using h), hcs]
  rfl

theorem infix_intercalate {between piece : List Char} {pieces : List (List Char)}
    (h : piece ∈ pieces) : piece <:+: between.intercalate pieces := by
  induction pieces with
  | nil => exact absurd h List.not_mem_nil
  | cons first more ih =>
      cases more with
      | nil => simp [List.mem_singleton.mp h, List.intercalate]
      | cons next more =>
          have hcons : between.intercalate (first :: next :: more) =
              first ++ (between ++ between.intercalate (next :: more)) := by
            simp [List.intercalate]
          rw [hcons]
          rcases List.mem_cons.mp h with rfl | hmore
          · exact (List.prefix_append _ _).isInfix
          · exact (ih hmore).trans
              ((List.suffix_append _ _).trans (List.suffix_append _ _)).isInfix

theorem infix_of_mem_splitOn {cs piece : List Char} (h : piece ∈ cs.splitOn separator) :
    piece <:+: cs := by
  have htext : [separator].intercalate (cs.splitOn separator) = cs :=
    List.intercalate_splitOn separator
  rw [← htext]
  exact infix_intercalate h

theorem separator_notMem {cs piece : List Char} (h : piece ∈ cs.splitOn separator) :
    separator ∉ piece := by
  induction cs generalizing piece with
  | nil =>
      rw [List.mem_singleton.mp h]
      exact List.not_mem_nil
  | cons c cs ih =>
      by_cases hc : c = separator
      · rw [hc, splitOn_separator] at h
        rcases List.mem_cons.mp h with rfl | h
        · exact List.not_mem_nil
        · exact ih h
      · obtain ⟨first, more, hcs⟩ := List.exists_cons_of_ne_nil (List.splitOn_ne_nil separator cs)
        rw [splitOn_cons hc hcs] at h
        rw [hcs] at ih
        rcases List.mem_cons.mp h with rfl | h
        · rw [List.mem_cons, not_or]
          exact ⟨Ne.symm hc, ih List.mem_cons_self⟩
        · exact ih (List.mem_cons_of_mem _ h)

/-- The characters of a piece come from the text, and the separator is none of them. -/
theorem mem_of_mem_piece {cs piece : List Char} (h : piece ∈ cs.splitOn separator) {c : Char}
    (hc : c ∈ piece) : c ∈ cs ∧ c ≠ separator :=
  ⟨(infix_of_mem_splitOn h).subset hc, fun e => separator_notMem h (e ▸ hc)⟩

theorem mem_piece_or_eq {cs : List Char} {c : Char} (h : c ∈ cs) :
    c = separator ∨ ∃ piece ∈ cs.splitOn separator, c ∈ piece := by
  induction cs with
  | nil => cases h
  | cons x cs ih =>
      by_cases hx : x = separator
      · rw [hx, splitOn_separator]
        rcases List.mem_cons.mp h with hc | hc
        · exact .inl (hc.trans hx)
        · exact (ih hc).imp_right fun ⟨piece, hpiece, hmem⟩ =>
            ⟨piece, List.mem_cons_of_mem _ hpiece, hmem⟩
      · obtain ⟨first, more, hcs⟩ := List.exists_cons_of_ne_nil (List.splitOn_ne_nil separator cs)
        rw [splitOn_cons hx hcs]
        rw [hcs] at ih
        rcases List.mem_cons.mp h with rfl | hc
        · exact .inr ⟨c :: first, List.mem_cons_self, List.mem_cons_self⟩
        · refine (ih hc).imp_right fun ⟨piece, hpiece, hmem⟩ => ?_
          rcases List.mem_cons.mp hpiece with rfl | hpiece
          · exact ⟨x :: piece, List.mem_cons_self, List.mem_cons_of_mem x hmem⟩
          · exact ⟨piece, List.mem_cons_of_mem _ hpiece, hmem⟩

/-- A change of characters that makes and loses no separators can be done piece by piece. -/
theorem splitOn_map {f : Char → Char} (hf : ∀ c, f c = separator ↔ c = separator)
    (cs : List Char) :
    (cs.map f).splitOn separator = (cs.splitOn separator).map (·.map f) := by
  induction cs with
  | nil => rfl
  | cons c cs ih =>
      by_cases hc : c = separator
      · rw [List.map_cons, (hf c).mpr hc, hc, splitOn_separator, splitOn_separator, ih]
        rfl
      · obtain ⟨first, more, hcs⟩ := List.exists_cons_of_ne_nil (List.splitOn_ne_nil separator cs)
        rw [hcs, List.map_cons] at ih
        rw [List.map_cons, splitOn_cons (mt (hf c).mp hc) ih, splitOn_cons hc hcs]
        rfl

end Text

end CrudStack
