/-
# `CrudStack.Proofs.Path.Below` — paths below a path

A text that is joined to a path brings its own pieces and leaves those of the path alone
(`split_below`).  So what is left of the longer path after the shorter one is taken away is the text
again, but for pieces without a part at its ends (`relativeTo?_below`): how the base was written,
with dots, doubled slashes or a slash in front, does not matter.
-/
import CrudStack.Path
import CrudStack.Proofs.Text.Split

namespace CrudStack

namespace Path

/-! ## Pieces -/

theorem split_root {p : Path} {cs : List Char} (h : p.text.toList = '/' :: cs) :
    p.split = (.root, cs.splitOn '/') := by
  unfold split
  rw [h]
  rfl

theorem split_other {p : Path} {c : Char} {cs piece : List Char} {more : List (List Char)}
    (hc : c ≠ '/') (h : p.text.toList = c :: cs) (hpieces : (c :: cs).splitOn '/' = piece :: more) :
    p.split = if piece = ['.'] then (.here, more) else (.plain, piece :: more) := by
  unfold split
  rw [h]
  split
  · next heq => exact absurd (List.cons.inj heq).1 hc
  · rw [hpieces]
    split
    · next heq =>
        rw [if_pos (List.cons.inj heq).1, (List.cons.inj heq).2]
    · next hnot =>
        rw [if_neg]
        intro hdot
        exact hnot more (by rw [hdot])

/-- A text below a path leaves the head of the path and its pieces alone. -/
theorem split_below {p : Path} (hp : p.text ≠ "") (rest : String) :
    (⟨p.text ++ "/" ++ rest⟩ : Path).split = (p.split.1, p.split.2 ++ rest.toList.splitOn '/') := by
  have htext : (p.text ++ "/" ++ rest).toList = p.text.toList ++ '/' :: rest.toList := by
    simp
  cases hcs : p.text.toList with
  | nil => exact absurd (String.toList_eq_nil_iff.mp hcs) hp
  | cons c cs =>
      rw [hcs, List.cons_append] at htext
      by_cases h : c = '/'
      · subst h
        rw [split_root hcs, split_root htext, List.splitOn_append_cons_self]
      · have happend : (c :: (cs ++ '/' :: rest.toList)).splitOn '/' =
            (c :: cs).splitOn '/' ++ rest.toList.splitOn '/' :=
          List.splitOn_append_cons_self (c :: cs) rest.toList
        obtain ⟨piece, more, hpieces⟩ :=
          List.exists_cons_of_ne_nil (List.splitOn_ne_nil '/' (c :: cs))
        rw [hpieces, List.cons_append] at happend
        rw [split_other h hcs hpieces, split_other h htext happend]
        split <;> rfl

/-! ## Parts -/

theorem length_pieceParts (piece : List Char) :
    (pieceParts piece).length = if isTrivial piece then 0 else 1 := by
  unfold pieceParts
  split
  · rfl
  · split <;> rfl

/-- To drop as many parts as some pieces carry is to drop these pieces, but for trivial ones. -/
theorem dropWhile_dropParts (xs ys : List (List Char)) :
    (dropParts (xs.flatMap pieceParts).length (xs ++ ys)).dropWhile isTrivial =
      ys.dropWhile isTrivial := by
  induction xs with
  | nil => simp [dropParts]
  | cons x xs ih =>
      rw [List.flatMap_cons, List.length_append, length_pieceParts]
      by_cases hx : isTrivial x = true
      · rw [if_pos hx, Nat.zero_add]
        cases hn : (xs.flatMap pieceParts).length with
        | zero =>
            rw [hn, dropParts] at ih
            rw [dropParts, List.cons_append, List.dropWhile_cons_of_pos hx, ih]
        | succ n =>
            rw [hn] at ih
            rw [List.cons_append, dropParts, if_pos hx, ih]
      · rw [if_neg hx, Nat.add_comm, List.cons_append, dropParts, if_neg hx, ih]

theorem parts_below {p : Path} (hp : p.text ≠ "") (rest : String) :
    (⟨p.text ++ "/" ++ rest⟩ : Path).parts =
      p.parts ++ (rest.toList.splitOn '/').flatMap pieceParts := by
  unfold parts
  rw [split_below hp, List.flatMap_append, List.append_assoc]

/-! ## Children -/

theorem child_of_needsSlash {p : Path} {name : String} (hp : p.needsSlash = true)
    (hname : (⟨name⟩ : Path).isAbsolute = false) : p.child name = ⟨p.text ++ "/" ++ name⟩ := by
  rw [child, join, if_neg (by simp [hname]), if_pos hp]

theorem child_of_empty {p : Path} {name : String} (hp : p.text = "") : p.child name = ⟨name⟩ := by
  have hnot : p.needsSlash = false := by
    unfold needsSlash
    rw [hp]
    rfl
  rw [child, join, hnot, hp]
  simp

/-- A path that needs no slash is empty or has one at its end. -/
theorem text_of_not_needsSlash {p : Path} (hp : p.text ≠ "") (h : p.needsSlash = false) :
    ∃ before, p.text = before ++ "/" := by
  unfold needsSlash at h
  cases hlast : p.text.toList.getLast? with
  | none => exact absurd (String.toList_eq_nil_iff.mp (List.getLast?_eq_none_iff.mp hlast)) hp
  | some c =>
      rw [hlast] at h
      obtain ⟨before, hbefore⟩ := List.getLast?_eq_some_iff.mp hlast
      have hc : c = '/' := by simpa using h
      refine ⟨String.ofList before, String.toList_inj.mp ?_⟩
      rw [hbefore, hc]
      simp

theorem needsSlash_append (before : String) {name : String}
    (h : (⟨name⟩ : Path).needsSlash = true) : (⟨before ++ name⟩ : Path).needsSlash = true := by
  unfold needsSlash at h ⊢
  cases hlast : name.toList.getLast? with
  | none => rw [hlast] at h; cases h
  | some c =>
      rw [hlast] at h
      rw [String.toList_append, List.getLast?_append, hlast]
      exact h

theorem needsSlash_child (p : Path) {name : String} (h : (⟨name⟩ : Path).needsSlash = true) :
    (p.child name).needsSlash = true := by
  unfold child join
  split
  · exact h
  · split
    · exact needsSlash_append _ h
    · exact needsSlash_append _ h

/-- A child brings its own parts, whether a slash was due before it or not. -/
theorem parts_child {p : Path} (hp : p.text ≠ "") {name : String}
    (hname : (⟨name⟩ : Path).isAbsolute = false) :
    (p.child name).parts = p.parts ++ (name.toList.splitOn '/').flatMap pieceParts := by
  cases hslash : p.needsSlash with
  | true => rw [child_of_needsSlash hslash hname, parts_below hp]
  | false =>
      obtain ⟨before, hbefore⟩ := text_of_not_needsSlash hp hslash
      have hchild : p.child name = ⟨before ++ "/" ++ name⟩ := by
        rw [child, join, if_neg (by simp [hname]), hslash, hbefore]
        simp
      have hself : p = ⟨before ++ "/" ++ ""⟩ := by
        cases p
        simp_all
      by_cases hempty : before = ""
      · have htext : ∀ n : String, (⟨before ++ "/" ++ n⟩ : Path).text.toList = '/' :: n.toList := by
          simp [hempty]
        rw [hchild, hself]
        unfold parts
        rw [split_root (htext name), split_root (htext "")]
        rfl
      · rw [hchild, hself, parts_below (p := ⟨before⟩) hempty, parts_below (p := ⟨before⟩) hempty,
          List.append_assoc]
        rfl

/-- What is left below a path that has parts: the text below it, without trivial pieces at its
ends. -/
theorem relativeTo?_below {p : Path} (hp : p.parts ≠ []) (rest : String) :
    (⟨p.text ++ "/" ++ rest⟩ : Path).relativeTo? p =
      some (unsplit .plain (trimEnd ((rest.toList.splitOn '/').dropWhile isTrivial))) := by
  have htext : p.text ≠ "" := by
    intro hempty
    have hsplit : p.split = (.plain, [[]]) := by
      unfold split
      rw [hempty]
      rfl
    refine hp ?_
    unfold parts
    rw [hsplit]
    rfl
  have hprefix : p.parts.isPrefixOf (⟨p.text ++ "/" ++ rest⟩ : Path).parts = true := by
    rw [parts_below htext, List.isPrefixOf_iff_prefix]
    exact List.prefix_append _ _
  have hlength : p.parts.length - p.split.1.parts.length =
      (p.split.2.flatMap pieceParts).length := by
    unfold parts
    rw [List.length_append]
    omega
  have hleft := dropWhile_dropParts p.split.2 (rest.toList.splitOn '/')
  unfold relativeTo?
  rw [if_pos hprefix, split_below htext]
  split
  · next hzero => exact absurd (List.length_eq_zero_iff.mp hzero) hp
  · dsimp only
    rw [hlength, hleft]

example : (⟨"./shop/src//components/"⟩ : Path).relativeTo? ⟨"./shop"⟩ =
    some ⟨"src//components"⟩ := by
  decide +kernel

end Path

end CrudStack
