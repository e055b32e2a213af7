/-
# `CrudStack.Proofs.Path.Parent` — the pieces of a path, of its children and of its parent

What the system looks up of a path are its pieces, and they say almost everything about it: a child
adds the pieces of its name (`pieces_child`), and a parent lacks the last piece and the dots around
it (`Parent`).  A path without a parent has no pieces but dots (`dots_of_parent?_none`).

A parent is a beginning of the text of its path, and it has one part less.  The one thing that does
not survive is a spelling such as `shop/.`: its parent is that of `shop`, but it is not the parent
of its children.  That is `trimmed`, which has the same parent, leads to the same place, and has no
dots at its end.
-/
import CrudStack.Disk
import CrudStack.Proofs.Path.Below
import Mathlib.Data.List.DropRight

namespace CrudStack

namespace Path

open Disk (pieces)

/-! ## Splitting and joining -/

theorem joinPieces_cons (piece next : List Char) (more : List (List Char)) :
    joinPieces (piece :: next :: more) = piece ++ '/' :: joinPieces (next :: more) := by
  simp [joinPieces, List.intercalate]

theorem joinPieces_singleton (piece : List Char) : joinPieces [piece] = piece := by
  simp [joinPieces, List.intercalate]

theorem joinPieces_splitOn (cs : List Char) : joinPieces (cs.splitOn '/') = cs :=
  List.intercalate_splitOn '/'

theorem splitOn_joinPieces {ps : List (List Char)} (hne : ps ≠ []) (h : ∀ p ∈ ps, '/' ∉ p) :
    (joinPieces ps).splitOn '/' = ps :=
  List.splitOn_intercalate '/' h hne

theorem joinPieces_beginning :
    ∀ {as bs : List (List Char)}, as <+: bs → joinPieces as <+: joinPieces bs
  | [], _, _ => List.nil_prefix
  | [a], [], h => absurd (List.prefix_nil.mp h) (List.cons_ne_nil _ _)
  | a :: a' :: as, [], h => absurd (List.prefix_nil.mp h) (List.cons_ne_nil _ _)
  | [_], [_], h => (List.cons_prefix_cons.mp h).1 ▸ List.prefix_refl _
  | [a], b :: b' :: bs, h => by
      rw [(List.cons_prefix_cons.mp h).1, joinPieces_singleton, joinPieces_cons]
      exact List.prefix_append _ _
  | a :: a' :: as, [b], h => absurd (List.cons_prefix_cons.mp h).2 (by simp)
  | a :: a' :: as, b :: b' :: bs, h => by
      obtain ⟨rfl, hrest⟩ := List.cons_prefix_cons.mp h
      rw [joinPieces_cons, joinPieces_cons]
      exact (List.prefix_append_right_inj _).mpr
        ((List.prefix_cons_inj '/').mpr (joinPieces_beginning hrest))

/-! ## Pieces by the head of a path -/

/-- The pieces that are looked up, as names. -/
def names (ps : List (List Char)) : List String :=
  (ps.filter fun piece => !piece.isEmpty).map String.ofList

/-- The piece of a head. -/
def Head.names : Head → List String
  | .here => ["."]
  | .root | .plain => []

theorem names_append (as bs : List (List Char)) : names (as ++ bs) = names as ++ names bs := by
  simp [names]

theorem names_of_isTrivial {ps : List (List Char)} (h : ∀ p ∈ ps, isTrivial p = true) :
    ∀ n ∈ names ps, n = "." := by
  intro n hn
  obtain ⟨piece, hpiece, rfl⟩ := List.mem_map.mp hn
  obtain ⟨hmem, hempty⟩ := List.mem_filter.mp hpiece
  have htrivial := h piece hmem
  simp only [isTrivial, Bool.or_eq_true, decide_eq_true_eq] at htrivial
  rcases htrivial with rfl | rfl
  · cases hempty
  · rfl

/-- The three ways in which a path begins. -/
theorem split_cases (p : Path) :
    (∃ cs, p.text.toList = '/' :: cs ∧ p.split = (.root, cs.splitOn '/')) ∨
      (∃ more, p.text.toList.splitOn '/' = ['.'] :: more ∧ p.text.toList.head? ≠ some '/' ∧
        p.split = (.here, more)) ∨
      (p.text.toList.head? ≠ some '/' ∧ (p.text.toList.splitOn '/').head? ≠ some ['.'] ∧
        p.split = (.plain, p.text.toList.splitOn '/')) := by
  cases hcs : p.text.toList with
  | nil =>
      refine .inr (.inr ⟨by simp, by simp, ?_⟩)
      unfold split
      rw [hcs]
      rfl
  | cons c cs =>
      by_cases hc : c = '/'
      · subst hc
        exact .inl ⟨cs, rfl, split_root hcs⟩
      · obtain ⟨piece, more, hpieces⟩ :=
          List.exists_cons_of_ne_nil (List.splitOn_ne_nil '/' (c :: cs))
        have hsplit := split_other hc hcs hpieces
        have hhead : (c :: cs).head? ≠ some '/' := by simpa using hc
        by_cases hdot : piece = ['.']
        · rw [if_pos hdot] at hsplit
          exact .inr (.inl ⟨more, by rw [hpieces, hdot], hhead, hsplit⟩)
        · rw [if_neg hdot] at hsplit
          exact .inr (.inr ⟨hhead, by rw [hpieces]; simpa using hdot, by rw [hsplit, hpieces]⟩)

theorem pieces_eq_split (p : Path) : pieces p = p.split.1.names ++ names p.split.2 := by
  show names (p.text.toList.splitOn '/') = _
  rcases split_cases p with ⟨cs, hcs, hsplit⟩ | ⟨more, hmore, -, hsplit⟩ | ⟨-, -, hsplit⟩
  · rw [hsplit, hcs, Text.splitOn_separator]
    simp [names, Head.names]
  · rw [hsplit, hmore]
    simp [names, Head.names]
  · rw [hsplit]
    rfl

theorem isAbsolute_eq_split (p : Path) : p.isAbsolute = true ↔ p.split.1 = .root := by
  unfold isAbsolute
  rcases split_cases p with ⟨cs, hcs, hsplit⟩ | ⟨more, -, hhead, hsplit⟩ | ⟨hhead, -, hsplit⟩
  · simp [hsplit, hcs]
  · simp [hsplit, hhead]
  · simp [hsplit, hhead]

/-! ## Beginnings of a path -/

/-- A path with only the first of its pieces. -/
def keep (p : Path) (ps : List (List Char)) : Path := unsplit p.split.1 ps

/-- The text of a path is its head and its pieces. -/
theorem text_eq_split (p : Path) : p.keep p.split.2 = p := by
  unfold keep
  rcases split_cases p with ⟨cs, hcs, hsplit⟩ | ⟨more, hmore, -, hsplit⟩ | ⟨-, -, hsplit⟩
  · rw [hsplit, unsplit, joinPieces_splitOn, ← hcs, String.ofList_toList]
  · rw [hsplit, unsplit, ← hmore, joinPieces_splitOn, String.ofList_toList]
  · rw [hsplit, unsplit, joinPieces_splitOn, String.ofList_toList]

section Keep

variable {p : Path} {ps : List (List Char)} (h : ps <+: p.split.2)

include h

theorem text_keep : (p.keep ps).text.toList <+: p.text.toList := by
  conv => rhs; rw [← text_eq_split p]
  have hjoin := joinPieces_beginning h
  unfold keep
  cases p.split.1 with
  | root =>
      simp only [unsplit, String.toList_ofList]
      exact (List.prefix_cons_inj '/').mpr hjoin
  | here =>
      simp only [unsplit, String.toList_ofList]
      exact joinPieces_beginning ((List.prefix_cons_inj _).mpr h)
  | plain =>
      simpa only [unsplit, String.toList_ofList] using hjoin

theorem slash_notMem_split {piece : List Char} (hpiece : piece ∈ ps) : '/' ∉ piece := by
  have hmem := h.subset hpiece
  rcases split_cases p with ⟨cs, -, hsplit⟩ | ⟨more, hmore, -, hsplit⟩ | ⟨-, -, hsplit⟩
  · rw [hsplit] at hmem
    exact Text.separator_notMem hmem
  · rw [hsplit] at hmem
    exact Text.separator_notMem (hmore ▸ List.mem_cons_of_mem _ hmem)
  · rw [hsplit] at hmem
    exact Text.separator_notMem hmem

theorem head?_keep (hp : p.text.toList.head? ≠ some '/') :
    (p.keep ps).text.toList.head? ≠ some '/' := by
  obtain ⟨rest, hrest⟩ := text_keep h
  intro hhead
  obtain ⟨cs, hcs⟩ := List.head?_eq_some_iff.mp hhead
  rw [hcs] at hrest
  exact hp (by rw [← hrest]; rfl)

/-- A beginning has the head of its path and the pieces that were kept.  If none were kept, there
may be one that is empty. -/
theorem split_keep :
    (p.keep ps).split.1 = p.split.1 ∧
      ((p.keep ps).split.2 = ps ∨ ps = [] ∧ (p.keep ps).split.2 = [[]]) := by
  have hslash : ∀ piece ∈ ps, '/' ∉ piece := fun piece => slash_notMem_split h
  have hpieces : (joinPieces ps).splitOn '/' = ps ∨
      ps = [] ∧ (joinPieces ps).splitOn '/' = [[]] := by
    by_cases hnil : ps = []
    · exact .inr ⟨hnil, by rw [hnil]; rfl⟩
    · exact .inl (splitOn_joinPieces hnil hslash)
  rcases split_cases p with ⟨cs, -, hsplit⟩ | ⟨more, -, hhead, hsplit⟩ | ⟨hhead, hdot, hsplit⟩
  · have htext : (p.keep ps).text.toList = '/' :: joinPieces ps := by
      simp [keep, hsplit, unsplit]
    rw [split_root htext, hsplit]
    exact ⟨rfl, hpieces⟩
  · have htext : (p.keep ps).text.toList.splitOn '/' = ['.'] :: ps := by
      rw [keep, hsplit, unsplit, String.toList_ofList]
      exact splitOn_joinPieces (List.cons_ne_nil _ _) (by simpa using hslash)
    rcases split_cases (p.keep ps) with ⟨cs, hcs, -⟩ | ⟨more', hmore', -, hkeep⟩ | ⟨-, hplain, -⟩
    · exact absurd (by rw [hcs]; rfl) (head?_keep h hhead)
    · rw [htext] at hmore'
      rw [hkeep, hsplit, (List.cons.inj hmore').2]
      exact ⟨rfl, .inl rfl⟩
    · rw [htext] at hplain
      exact absurd rfl hplain
  · have htext : (p.keep ps).text.toList.splitOn '/' = (joinPieces ps).splitOn '/' := by
      simp [keep, hsplit, unsplit]
    rcases split_cases (p.keep ps) with ⟨cs, hcs, -⟩ | ⟨more, hmore, -, -⟩ | ⟨-, -, hkeep⟩
    · exact absurd (by rw [hcs]; rfl) (head?_keep h hhead)
    · rw [htext] at hmore
      rcases hpieces with hsame | ⟨-, hempty⟩
      · rw [hsame] at hmore
        obtain ⟨rest, hrest⟩ := h
        have hfirst : p.text.toList.splitOn '/' = ['.'] :: (more ++ rest) := by
          rw [hsplit, hmore] at hrest
          exact hrest.symm
        exact absurd (by rw [hfirst]; rfl) hdot
      · rw [hempty] at hmore
        cases hmore
    · rw [hkeep, hsplit, htext]
      exact ⟨rfl, hpieces⟩

theorem pieces_keep : pieces (p.keep ps) = p.split.1.names ++ names ps := by
  obtain ⟨hhead, hsame | ⟨rfl, hempty⟩⟩ := split_keep h
  · rw [pieces_eq_split, hhead, hsame]
  · rw [pieces_eq_split, hhead, hempty]
    rfl

theorem parts_keep : (p.keep ps).parts = p.split.1.parts ++ ps.flatMap pieceParts := by
  obtain ⟨hhead, hsame | ⟨rfl, hempty⟩⟩ := split_keep h
  · rw [parts, hhead, hsame]
  · rw [parts, hhead, hempty]
    rfl

theorem isAbsolute_keep : (p.keep ps).isAbsolute = p.isAbsolute := by
  rw [Bool.eq_iff_iff, isAbsolute_eq_split, isAbsolute_eq_split, (split_keep h).1]

theorem trimEnd_keep : trimEnd (p.keep ps).split.2 = trimEnd ps := by
  obtain ⟨-, hsame | ⟨rfl, hempty⟩⟩ := split_keep h
  · rw [hsame]
  · rw [hempty]
    rfl

end Keep

/-! ## Parents -/

theorem trimEnd_beginning (ps : List (List Char)) : trimEnd ps <+: ps := List.rdropWhile_prefix _ _

/-- Behind what is left of some pieces there are only trivial ones. -/
theorem trimEnd_append (ps : List (List Char)) :
    ∃ after, ps = trimEnd ps ++ after ∧ ∀ p ∈ after, isTrivial p = true :=
  ⟨ps.rtakeWhile isTrivial, List.rdropWhile_append_rtakeWhile.symm,
    fun _ => List.mem_rtakeWhile_imp⟩

/-- What is left of some pieces ends in one that is not trivial. -/
theorem trimEnd_cases (ps : List (List Char)) :
    trimEnd ps = [] ∨ ∃ init last, trimEnd ps = init ++ [last] ∧ isTrivial last = false := by
  induction ps using List.reverseRecOn with
  | nil => exact .inl rfl
  | append_singleton init last ih =>
      cases hlast : isTrivial last with
      | true =>
          have htrim : trimEnd (init ++ [last]) = trimEnd init :=
            List.rdropWhile_concat_pos _ _ _ hlast
          rw [htrim]
          exact ih
      | false =>
          have htrim : trimEnd (init ++ [last]) = init ++ [last] :=
            List.rdropWhile_concat_neg _ _ _ (by simp [hlast])
          exact .inr ⟨init, last, htrim, hlast⟩

/-- A piece that is not trivial is a name. -/
theorem names_singleton {piece : List Char} (h : isTrivial piece = false) :
    names [piece] = [String.ofList piece] := by
  have hne : piece ≠ [] := by
    rintro rfl
    cases h
  simp [names, hne]

/-- One path is around another: its text is a beginning of the text of the other, it has one part
less, and what it lacks is one piece, but for dots. -/
structure Parent (q p : Path) : Prop where
  text : q.text.toList <+: p.text.toList
  isAbsolute : q.isAbsolute = p.isAbsolute
  parts : p.parts.length = q.parts.length + 1
  pieces : ∃ dots last after, pieces p = pieces q ++ dots ++ last :: after ∧
    (∀ n ∈ dots, n = ".") ∧ ∀ n ∈ after, n = "."

theorem parent?_eq (p : Path) :
    p.parent? =
      match trimEnd p.split.2 with
      | [] =>
        match p.split.1 with
        | .here => some ⟨""⟩
        | .root | .plain => none
      | kept => some (p.keep (trimEnd kept.dropLast)) := rfl

theorem dots_of_parent?_none {p : Path} (h : p.parent? = none) : ∀ n ∈ pieces p, n = "." := by
  rw [parent?_eq] at h
  split at h
  · next htrim =>
      obtain ⟨after, happend, htrivial⟩ := trimEnd_append p.split.2
      rw [htrim, List.nil_append] at happend
      have hnames := names_of_isTrivial htrivial
      rw [← happend] at hnames
      rw [pieces_eq_split]
      cases hhead : p.split.1 with
      | here => rw [hhead] at h; cases h
      | root => exact hnames
      | plain => exact hnames
  · cases h

theorem length_parts_of_isTrivial {ps : List (List Char)} (h : ∀ p ∈ ps, isTrivial p = true) :
    ps.flatMap pieceParts = [] := by
  rw [List.flatMap_eq_nil_iff]
  intro p hp
  rw [pieceParts, if_pos (h p hp)]

theorem parent_of_parent? {p q : Path} (h : p.parent? = some q) : Parent q p := by
  obtain ⟨after, happend, hafter⟩ := trimEnd_append p.split.2
  rw [parent?_eq] at h
  split at h
  · next htrim =>
      rw [htrim, List.nil_append] at happend
      cases hhead : p.split.1 with
      | root => rw [hhead] at h; cases h
      | plain => rw [hhead] at h; cases h
      | here =>
          rw [hhead] at h
          cases h
          have habsolute : p.isAbsolute = false := by
            rw [← Bool.not_eq_true, isAbsolute_eq_split, hhead]
            decide
          refine ⟨List.nil_prefix, habsolute.symm, ?_, [], ".", names after, ?_, by simp, ?_⟩
          · rw [parts, hhead, happend, length_parts_of_isTrivial hafter]
            rfl
          · rw [pieces_eq_split, hhead, happend]
            rfl
          · exact names_of_isTrivial hafter
  · next hne =>
      obtain ⟨init, last, hkept, hlast⟩ := (trimEnd_cases p.split.2).resolve_left hne
      obtain ⟨dots, hinit, hdots⟩ := trimEnd_append init
      have hkeep : trimEnd init <+: p.split.2 := by
        refine (trimEnd_beginning init).trans ?_
        rw [happend, hkept, List.append_assoc]
        exact List.prefix_append _ _
      rw [hkept, List.dropLast_concat] at h
      cases h
      refine ⟨text_keep hkeep, isAbsolute_keep hkeep, ?_, names dots, String.ofList last,
        names after, ?_, names_of_isTrivial hdots, names_of_isTrivial hafter⟩
      · have hone : (pieceParts last).length = 1 := by rw [length_pieceParts, hlast]; rfl
        rw [parts_keep hkeep, parts, happend, hkept, List.flatMap_append, List.flatMap_append,
          length_parts_of_isTrivial hafter]
        conv => lhs; rw [hinit]
        simp [length_parts_of_isTrivial hdots, hone]
        omega
      · rw [pieces_keep hkeep, pieces_eq_split, happend, hkept, names_append, names_append,
          names_singleton hlast]
        conv => lhs; rw [hinit]
        simp [names_append]

/-! ## Paths without dots at their end -/

/-- A path without the pieces at its end that carry no part. -/
def trimmed (p : Path) : Path := p.keep (trimEnd p.split.2)

theorem text_trimmed (p : Path) : p.trimmed.text.toList <+: p.text.toList :=
  text_keep (trimEnd_beginning _)

theorem isAbsolute_trimmed (p : Path) : p.trimmed.isAbsolute = p.isAbsolute :=
  isAbsolute_keep (trimEnd_beginning _)

theorem pieces_trimmed (p : Path) :
    ∃ dots, pieces p = pieces p.trimmed ++ dots ∧ ∀ n ∈ dots, n = "." := by
  obtain ⟨after, happend, htrivial⟩ := trimEnd_append p.split.2
  refine ⟨names after, ?_, names_of_isTrivial htrivial⟩
  rw [trimmed, pieces_keep (trimEnd_beginning _), pieces_eq_split, List.append_assoc,
    ← names_append, ← happend]

theorem keep_congr {p q : Path} (h : p.split.1 = q.split.1) (ps : List (List Char)) :
    p.keep ps = q.keep ps := by
  rw [keep, h, keep]

theorem parent?_trimmed (p : Path) : p.trimmed.parent? = p.parent? := by
  have hhead := (split_keep (trimEnd_beginning p.split.2)).1
  have htrim : trimEnd p.trimmed.split.2 = trimEnd p.split.2 := by
    rw [trimmed, trimEnd_keep (trimEnd_beginning _)]
    exact List.rdropWhile_idempotent _ _
  rw [parent?_eq, parent?_eq, htrim]
  split
  · rw [trimmed, hhead]
  · rw [keep_congr (p := p.trimmed) hhead]

/-! ## Children -/

/-- A path that neither starts at the root nor with a dot of its own. -/
def IsPlain (p : Path) : Prop := p.split.1 = .plain

theorem IsPlain.isAbsolute {p : Path} (h : p.IsPlain) : p.isAbsolute = false := by
  rw [← Bool.not_eq_true, isAbsolute_eq_split, h]
  decide

theorem IsPlain.split {p : Path} (h : p.IsPlain) :
    p.split = (.plain, p.text.toList.splitOn '/') := by
  rcases split_cases p with ⟨cs, -, hsplit⟩ | ⟨more, -, -, hsplit⟩ | ⟨-, -, hsplit⟩
  · rw [IsPlain, hsplit] at h
    cases h
  · rw [IsPlain, hsplit] at h
    cases h
  · exact hsplit

/-- A child has the head of its path, and its pieces behind those of the path.  A path that ends in
a slash has an empty piece there, which is gone then. -/
theorem split_child (p : Path) {name : String} (h : IsPlain ⟨name⟩) :
    ∃ xs, (p.text ≠ "" ∧ p.split.2 = xs ∨ p.split.2 = xs ++ [[]]) ∧
      (p.child name).split = (p.split.1, xs ++ name.toList.splitOn '/') := by
  by_cases hempty : p.text = ""
  · have hp : p.split = (.plain, [[]]) := by
      obtain ⟨_⟩ := p
      rw [show (Path.mk _) = ⟨""⟩ from congrArg Path.mk hempty]
      rfl
    refine ⟨[], .inr (by rw [hp]; rfl), ?_⟩
    rw [child_of_empty hempty, h.split, hp]
    rfl
  · cases hslash : p.needsSlash with
    | true =>
        refine ⟨p.split.2, .inl ⟨hempty, rfl⟩, ?_⟩
        rw [child_of_needsSlash hslash h.isAbsolute, split_below hempty]
    | false =>
        obtain ⟨before, hbefore⟩ := text_of_not_needsSlash hempty hslash
        have hchild : p.child name = ⟨before ++ "/" ++ name⟩ := by
          rw [child, join, if_neg (by simp [h.isAbsolute]), hslash, hbefore]
          simp
        have hself : p = ⟨before ++ "/" ++ ""⟩ := by
          cases p
          simp_all
        by_cases hroot : before = ""
        · have htext :
              ∀ n : String, (⟨before ++ "/" ++ n⟩ : Path).text.toList = '/' :: n.toList := by
            simp [hroot]
          refine ⟨[], .inr ?_, ?_⟩
          · rw [hself, split_root (htext "")]
            rfl
          · rw [hchild, split_root (htext name), hself, split_root (htext "")]
            rfl
        · refine ⟨(⟨before⟩ : Path).split.2, .inr ?_, ?_⟩
          · rw [hself, split_below (p := ⟨before⟩) hroot]
            rfl
          · rw [hchild, hself, split_below (p := ⟨before⟩) hroot,
              split_below (p := ⟨before⟩) hroot]

theorem names_before_child {p : Path} {xs : List (List Char)}
    (h : p.text ≠ "" ∧ p.split.2 = xs ∨ p.split.2 = xs ++ [[]]) : names p.split.2 = names xs := by
  rcases h with ⟨-, h⟩ | h
  · rw [h]
  · rw [h, names_append]
    exact List.append_nil _

theorem pieces_child (p : Path) {name : String} (h : IsPlain ⟨name⟩) :
    pieces (p.child name) = pieces p ++ pieces ⟨name⟩ := by
  obtain ⟨xs, hxs, hsplit⟩ := split_child p h
  rw [pieces_eq_split, pieces_eq_split p, hsplit, names_append, names_before_child hxs,
    List.append_assoc]
  rfl

theorem isAbsolute_child (p : Path) {name : String} (h : IsPlain ⟨name⟩) :
    (p.child name).isAbsolute = p.isAbsolute := by
  obtain ⟨xs, -, hsplit⟩ := split_child p h
  rw [Bool.eq_iff_iff, isAbsolute_eq_split, isAbsolute_eq_split, hsplit]

/-- The parent of a child is the path, without dots at its end. -/
theorem parent?_child (p : Path) {name : String} (h : IsPlain ⟨name⟩) (hslash : '/' ∉ name.toList)
    (hname : isTrivial name.toList = false) : (p.child name).parent? = some p.trimmed := by
  obtain ⟨xs, hxs, hsplit⟩ := split_child p h
  have hkept : trimEnd (p.child name).split.2 = xs ++ [name.toList] := by
    rw [hsplit, List.splitOn_eq_singleton hslash]
    exact List.rdropWhile_concat_neg _ _ _ (by simp [hname])
  have hbefore : trimEnd xs = trimEnd p.split.2 := by
    rcases hxs with ⟨-, hxs⟩ | hxs
    · rw [hxs]
    · rw [hxs]
      exact (List.rdropWhile_concat_pos _ _ _ rfl).symm
  have hhead : (p.child name).split.1 = p.split.1 := by rw [hsplit]
  rw [parent?_eq, hkept]
  split
  · next hnil => simp at hnil
  · rw [List.dropLast_concat, hbefore, keep_congr hhead, trimmed]

/-! ## Children of children -/

/-- The text of a path as far as a child begins. -/
def openText (p : Path) : String := if p.needsSlash then p.text ++ "/" else p.text

theorem child_eq (p : Path) {name : String} (h : IsPlain ⟨name⟩) :
    p.child name = ⟨p.openText ++ name⟩ := by
  rw [child, join, if_neg (by simp [h.isAbsolute]), openText]
  split <;> rfl

theorem needsSlash_append_eq (before : String) {name : String} (h : name ≠ "") :
    (⟨before ++ name⟩ : Path).needsSlash = (⟨name⟩ : Path).needsSlash := by
  have hname : name.toList ≠ [] := fun e => h (String.toList_eq_nil_iff.mp e)
  unfold needsSlash
  rw [String.toList_append, List.getLast?_append_of_ne_nil _ hname]

theorem isPlain_child {x y : String} (hx : IsPlain ⟨x⟩) (hy : IsPlain ⟨y⟩) :
    ((⟨x⟩ : Path).child y).IsPlain := by
  obtain ⟨xs, -, hsplit⟩ := split_child ⟨x⟩ hy
  rw [IsPlain, hsplit]
  exact hx

theorem child_child (p : Path) {x y : String} (hx : IsPlain ⟨x⟩) (hne : x ≠ "") (hy : IsPlain ⟨y⟩) :
    (p.child x).child y = p.child ((⟨x⟩ : Path).child y).text := by
  have hopen : (p.child x).openText = p.openText ++ (⟨x⟩ : Path).openText := by
    rw [child_eq p hx, openText, needsSlash_append_eq _ hne]
    unfold openText
    cases (⟨x⟩ : Path).needsSlash
    · rfl
    · exact String.append_assoc
  have hinner : p.child ((⟨x⟩ : Path).child y).text = _ := child_eq p (isPlain_child hx hy)
  rw [hinner, child_eq _ hy, child_eq _ hy, hopen, String.append_assoc]

/-! ## Relative paths -/

/-- A path that begins with its first piece begins with a name, if with anything. -/
theorem IsPlain.first {p : Path} (h : p.IsPlain) :
    p.text = "" ∨ ∃ first more, p.text.toList.splitOn '/' = first :: more ∧
      isTrivial first = false := by
  rcases split_cases p with ⟨cs, -, hsplit⟩ | ⟨more, -, -, hsplit⟩ | ⟨hhead, hdot, -⟩
  · rw [IsPlain, hsplit] at h
    cases h
  · rw [IsPlain, hsplit] at h
    cases h
  · cases hcs : p.text.toList with
    | nil => exact .inl (String.toList_eq_nil_iff.mp hcs)
    | cons c cs =>
        rw [hcs] at hhead hdot
        have hc : c ≠ '/' := by simpa using hhead
        obtain ⟨piece, more, hpieces⟩ := List.exists_cons_of_ne_nil (List.splitOn_ne_nil '/' cs)
        refine .inr ⟨c :: piece, more, Text.splitOn_cons hc hpieces, ?_⟩
        rw [Text.splitOn_cons hc hpieces] at hdot
        simpa [isTrivial] using hdot

theorem trimEnd_dropWhile {name : String} (h : IsPlain ⟨name⟩) :
    trimEnd ((name.toList.splitOn '/').dropWhile isTrivial) =
      trimEnd (name.toList.splitOn '/') := by
  rcases h.first with hempty | ⟨first, more, hpieces, hfirst⟩
  · rw [show name = "" from hempty]
    rfl
  · rw [show name.toList.splitOn '/' = first :: more from hpieces,
      List.dropWhile_cons_of_neg (by simp [hfirst])]

/-- A path without parts is empty. -/
theorem text_of_parts_nil {p : Path} (h : p.parts = []) : p.text = "" ∧ p.IsPlain := by
  unfold parts at h
  obtain ⟨hhead, hpieces⟩ := List.append_eq_nil_iff.mp h
  have hplain : p.IsPlain := by
    unfold IsPlain
    cases hp : p.split.1 with
    | root => rw [hp] at hhead; cases hhead
    | here => rw [hp] at hhead; cases hhead
    | plain => rfl
  refine ⟨?_, hplain⟩
  rcases hplain.first with hempty | ⟨first, more, hfirst, htrivial⟩
  · exact hempty
  · rw [hplain.split, hfirst, List.flatMap_cons] at hpieces
    have hnone := congrArg List.length (List.append_eq_nil_iff.mp hpieces).1
    rw [length_pieceParts, htrivial] at hnone
    cases hnone

theorem relativeTo?_self (p : Path) : p.relativeTo? p = some ⟨""⟩ := by
  have hbeginning : p.parts.isPrefixOf p.parts = true :=
    List.isPrefixOf_iff_prefix.mpr (List.prefix_refl _)
  unfold relativeTo?
  rw [if_pos hbeginning]
  split
  · next hzero =>
      obtain ⟨hempty, hplain⟩ := text_of_parts_nil (List.length_eq_zero_iff.mp hzero)
      obtain ⟨_⟩ := p
      rw [show (Path.mk _) = ⟨""⟩ from congrArg Path.mk hempty]
      rfl
  · have hlength : p.parts.length - p.split.1.parts.length =
        (p.split.2.flatMap pieceParts).length := by
      unfold parts
      rw [List.length_append]
      omega
    have hleft := dropWhile_dropParts p.split.2 []
    rw [List.append_nil] at hleft
    dsimp only
    rw [hlength, hleft]
    rfl

/-- A child, seen from its path, is its name. -/
theorem relativeTo?_child (p : Path) {name : String} (h : IsPlain ⟨name⟩) :
    (p.child name).relativeTo? p = some (⟨name⟩ : Path).trimmed := by
  obtain ⟨xs, hxs, hsplit⟩ := split_child p h
  have hparts : p.split.2.flatMap pieceParts = xs.flatMap pieceParts := by
    rcases hxs with ⟨-, hxs⟩ | hxs
    · rw [hxs]
    · rw [hxs, List.flatMap_append]
      exact List.append_nil _
  have hchild : (p.child name).parts =
      p.parts ++ (name.toList.splitOn '/').flatMap pieceParts := by
    rw [parts, hsplit, parts, hparts, List.flatMap_append, List.append_assoc]
  have hbeginning : p.parts.isPrefixOf (p.child name).parts = true := by
    rw [hchild, List.isPrefixOf_iff_prefix]
    exact List.prefix_append _ _
  have htrimmed : (⟨name⟩ : Path).trimmed = unsplit .plain (trimEnd (name.toList.splitOn '/')) := by
    rw [trimmed, keep, h.split]
  unfold relativeTo?
  rw [if_pos hbeginning, hsplit, htrimmed]
  split
  · next hzero =>
      obtain ⟨hempty, hplain⟩ := text_of_parts_nil (List.length_eq_zero_iff.mp hzero)
      have hnil : xs = [] := by
        rcases hxs with ⟨hne, -⟩ | hxs
        · exact absurd hempty hne
        · rw [hplain.split, hempty] at hxs
          have hone : [[]] = xs ++ [[]] := hxs
          simpa using hone
      rw [hnil, hplain]
      rfl
  · have hlength : p.parts.length - p.split.1.parts.length = (xs.flatMap pieceParts).length := by
      rw [← hparts]
      unfold parts
      rw [List.length_append]
      omega
    dsimp only
    rw [hlength, dropWhile_dropParts, trimEnd_dropWhile h]

end Path

end CrudStack
