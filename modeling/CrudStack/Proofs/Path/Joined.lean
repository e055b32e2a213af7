/-
# `CrudStack.Proofs.Path.Joined` — joining and taking apart, by parts

How a path is spelled is seen in its text; where it leads is in its parts.  The operations on texts
are operations on parts: a join puts the parts of one path behind those of another, unless it starts
anew at the root (`parts_join`), what is left of a path below another are the parts that were left
(`parts_relativeTo?`), and a parent lacks the last one (`parts_parent?`).

So paths that are spelled in odd ways, with doubled slashes, dots or nothing at all, can be compared
without a look at their texts.
-/
import CrudStack.Proofs.Path.Within

namespace CrudStack

namespace Path

/-! ## The parts behind a head -/

/-- A part that a piece behind the head can carry. -/
def Part.isInner : Part → Bool
  | .up | .name _ => true
  | .root | .here => false

theorem isInner_pieceParts {piece : List Char} {part : Part} (h : part ∈ pieceParts piece) :
    part.isInner = true := by
  unfold pieceParts at h
  split at h
  · cases h
  · split at h
    · rw [List.mem_singleton.mp h]
      rfl
    · rw [List.mem_singleton.mp h]
      rfl

theorem filter_isInner (pieces : List (List Char)) :
    (pieces.flatMap pieceParts).filter Part.isInner = pieces.flatMap pieceParts := by
  refine List.filter_eq_self.mpr fun part hpart => ?_
  obtain ⟨piece, -, hmem⟩ := List.mem_flatMap.mp hpart
  exact isInner_pieceParts hmem

/-- All pieces of a text together carry the parts behind its head. -/
theorem parts_splitOn (p : Path) :
    (p.text.toList.splitOn '/').flatMap pieceParts = p.parts.filter Part.isInner := by
  unfold parts
  rw [List.filter_append, filter_isInner]
  rcases split_cases p with ⟨cs, hcs, hsplit⟩ | ⟨more, hmore, -, hsplit⟩ | ⟨-, -, hsplit⟩
  · rw [hsplit, hcs, Text.splitOn_separator]
    rfl
  · rw [hsplit, hmore]
    rfl
  · rw [hsplit]
    rfl

theorem isAbsolute_eq_parts (p : Path) : p.isAbsolute = true ↔ p.parts.head? = some .root := by
  rw [isAbsolute_eq_split]
  unfold parts
  cases p.split.1 with
  | root => exact ⟨fun _ => rfl, fun _ => rfl⟩
  | here => exact ⟨nofun, nofun⟩
  | plain =>
      refine ⟨nofun, fun h => ?_⟩
      have hroot : Part.root ∈ p.split.2.flatMap pieceParts := List.mem_of_head? h
      obtain ⟨piece, -, hmem⟩ := List.mem_flatMap.mp hroot
      exact absurd (isInner_pieceParts hmem) Bool.false_ne_true

theorem parts_of_text_empty {p : Path} (h : p.text = "") : p.parts = [] := by
  obtain ⟨_⟩ := p
  rw [show (Path.mk _) = ⟨""⟩ from congrArg Path.mk h]
  rfl

/-! ## Names only -/

/-- A piece that is looked up by its name carries it as a part. -/
theorem pieceParts_name {piece : List Char} (hne : piece ≠ [])
    (hdots : Disk.isDots (String.ofList piece) = false) :
    pieceParts piece = [.name (String.ofList piece)] := by
  rw [Disk.isDots, Bool.or_eq_false_iff, decide_eq_false_iff_not, decide_eq_false_iff_not,
    ← String.toList_inj, ← String.toList_inj, String.toList_ofList] at hdots
  have hdot : piece ≠ ['.'] := hdots.1
  have hup : piece ≠ ['.', '.'] := hdots.2
  simp [pieceParts, isTrivial, hne, hdot, hup]

theorem parts_names {pieces : List (List Char)}
    (hdots : ∀ n ∈ names pieces, Disk.isDots n = false) :
    pieces.flatMap pieceParts = (names pieces).map Part.name := by
  induction pieces with
  | nil => rfl
  | cons piece rest ih =>
      have happend : names (piece :: rest) = names [piece] ++ names rest :=
        names_append [piece] rest
      rw [happend] at hdots ⊢
      rw [List.flatMap_cons, List.map_append, ih fun n hn => hdots n (List.mem_append_right _ hn)]
      by_cases hempty : piece = []
      · rw [hempty]
        rfl
      · have hone : names [piece] = [String.ofList piece] := by simp [names, hempty]
        rw [hone] at hdots ⊢
        rw [pieceParts_name hempty (hdots _ List.mem_cons_self)]
        rfl

/-- Without dots among them, the pieces of a path are its parts. -/
theorem parts_of_pieces {p : Path} (h : p.IsPlain)
    (hdots : ∀ n ∈ Disk.pieces p, Disk.isDots n = false) :
    p.parts = (Disk.pieces p).map Part.name := by
  rw [parts, h.split]
  exact parts_names hdots

/-- A name alone is one part. -/
theorem parts_name {name : String} (hslash : '/' ∉ name.toList) (hne : name ≠ "")
    (hdots : Disk.isDots name = false) : (⟨name⟩ : Path).parts = [.name name] := by
  have hplain : IsPlain ⟨name⟩ := by
    refine isPlain_of_notMem hslash ?_
    rintro rfl
    cases hdots
  have hpieces := pieces_name hslash hne
  have hall : ∀ n ∈ Disk.pieces ⟨name⟩, Disk.isDots n = false := by
    intro n hn
    rw [hpieces] at hn
    rwa [List.mem_singleton.mp hn]
  rw [parts_of_pieces hplain hall, hpieces]
  rfl

/-! ## Joining -/

/-- The parts of two paths that are joined. -/
def joinParts (ps qs : List Part) : List Part :=
  if qs.head? = some .root ∨ ps = [] then qs else ps ++ qs.filter Part.isInner

theorem parts_join (p q : Path) : (p.join q).parts = joinParts p.parts q.parts := by
  unfold joinParts
  by_cases habsolute : q.isAbsolute = true
  · rw [if_pos (.inl ((isAbsolute_eq_parts q).mp habsolute)), join, if_pos habsolute]
  have hhead : ¬q.parts.head? = some .root := fun h => habsolute ((isAbsolute_eq_parts q).mpr h)
  by_cases hempty : p.text = ""
  · rw [if_pos (.inr (parts_of_text_empty hempty))]
    exact congrArg parts (child_of_empty hempty)
  · have hparts : ¬p.parts = [] := fun h => hempty (text_of_parts_nil h).1
    rw [if_neg (not_or.mpr ⟨hhead, hparts⟩), ← parts_splitOn]
    exact parts_child hempty (Bool.not_eq_true _ ▸ habsolute)

theorem joinParts_root {ps qs : List Part} (h : qs.head? = some .root) : joinParts ps qs = qs :=
  if_pos (.inl h)

theorem joinParts_nil (qs : List Part) : joinParts [] qs = qs := if_pos (.inr rfl)

theorem joinParts_below {ps qs : List Part} (hqs : qs.head? ≠ some .root) (hps : ps ≠ []) :
    joinParts ps qs = ps ++ qs.filter Part.isInner :=
  if_neg (not_or.mpr ⟨hqs, hps⟩)

theorem joinParts_assoc (ps qs rs : List Part) :
    joinParts (joinParts ps qs) rs = joinParts ps (joinParts qs rs) := by
  by_cases hrs : rs.head? = some .root
  · rw [joinParts_root hrs, joinParts_root hrs, joinParts_root hrs]
  by_cases hps : ps = []
  · rw [hps, joinParts_nil, joinParts_nil]
  by_cases hqs : qs = []
  · rw [hqs, joinParts_below (by simp) hps, List.filter_nil, List.append_nil, joinParts_nil]
  have hinner : (joinParts qs rs).head? = qs.head? := by
    rw [joinParts_below hrs hqs, List.head?_append_of_ne_nil _ hqs]
  by_cases hroot : qs.head? = some .root
  · rw [joinParts_root hroot, joinParts_root (hinner.trans hroot)]
  · have hbelow : ps ++ qs.filter Part.isInner ≠ [] := List.append_ne_nil_of_left_ne_nil hps _
    rw [joinParts_below hroot hps, joinParts_below hrs hbelow,
      joinParts_below (hinner ▸ hroot) hps, joinParts_below hrs hqs, List.filter_append,
      List.filter_filter, List.append_assoc]
    simp only [Bool.and_self]

/-- What is joined to something that begins with a name begins with this name or at the root. -/
theorem head?_joinParts (name : String) (ps qs : List Part) :
    (joinParts (.name name :: ps) qs).head? ≠ some .here := by
  by_cases hroot : qs.head? = some .root
  · rw [joinParts_root hroot, hroot]
    nofun
  · rw [joinParts_below hroot (List.cons_ne_nil _ ps)]
    nofun

/-- A name comes behind everything. -/
theorem joinParts_name (ps : List Part) (name : String) :
    joinParts ps [.name name] = ps ++ [.name name] := by
  by_cases hps : ps = []
  · rw [hps, joinParts_nil, List.nil_append]
  · rw [joinParts_below (by simp) hps]
    rfl

/-- A name below a path is one more part. -/
theorem parts_child_name (p : Path) {name : String} (hslash : '/' ∉ name.toList) (hne : name ≠ "")
    (hdots : Disk.isDots name = false) : (p.child name).parts = p.parts ++ [.name name] := by
  rw [child, parts_join, parts_name hslash hne hdots, joinParts_name]

/-- Nothing below a path is the path. -/
theorem parts_join_nothing (p : Path) : (p.join ⟨""⟩).parts = p.parts := by
  have hnothing : (⟨""⟩ : Path).parts = [] := rfl
  rw [parts_join, hnothing]
  by_cases hempty : p.parts = []
  · rw [hempty, joinParts_nil]
  · rw [joinParts_below (by simp) hempty, List.filter_nil, List.append_nil]

theorem parts_join_assoc (p q r : Path) :
    ((p.join q).join r).parts = (p.join (q.join r)).parts := by
  simp only [parts_join, joinParts_assoc]

/-- Paths with the same parts can be exchanged before a join. -/
theorem parts_join_congr {p p' : Path} (h : p.parts = p'.parts) (q : Path) :
    (p.join q).parts = (p'.join q).parts := by
  rw [parts_join, parts_join, h]

/-! ## Relative paths -/

theorem parts_trimEnd (pieces : List (List Char)) :
    (trimEnd pieces).flatMap pieceParts = pieces.flatMap pieceParts := by
  obtain ⟨after, happend, htrivial⟩ := trimEnd_append pieces
  conv => rhs; rw [happend]
  rw [List.flatMap_append, length_parts_of_isTrivial htrivial, List.append_nil]

theorem parts_trimmed (p : Path) : p.trimmed.parts = p.parts := by
  rw [trimmed, parts_keep (trimEnd_beginning _), parts_trimEnd]
  rfl

theorem parts_dropWhile (pieces : List (List Char)) :
    (pieces.dropWhile isTrivial).flatMap pieceParts = pieces.flatMap pieceParts := by
  induction pieces with
  | nil => rfl
  | cons piece rest ih =>
      cases htrivial : isTrivial piece with
      | true =>
          have hnone : pieceParts piece = [] := if_pos htrivial
          rw [List.dropWhile_cons_of_pos htrivial, ih, List.flatMap_cons, hnone, List.nil_append]
      | false => rw [List.dropWhile_cons_of_neg (by simp [htrivial])]

/-- To drop parts is to drop the pieces that carry them. -/
theorem parts_dropParts (n : Nat) (pieces : List (List Char)) :
    (dropParts n pieces).flatMap pieceParts = (pieces.flatMap pieceParts).drop n := by
  induction pieces generalizing n with
  | nil => cases n <;> rfl
  | cons piece rest ih =>
      cases n with
      | zero => rfl
      | succ n =>
          have hlength := length_pieceParts piece
          rw [dropParts, List.flatMap_cons, List.drop_append, hlength]
          cases htrivial : isTrivial piece with
          | true =>
              rw [htrivial, if_pos rfl] at hlength
              rw [if_pos rfl, if_pos rfl, ih, List.length_eq_zero_iff.mp hlength]
              rfl
          | false =>
              rw [htrivial, if_neg Bool.false_ne_true] at hlength
              have hgone : (pieceParts piece).drop (n + 1) = [] :=
                List.drop_eq_nil_of_le (by omega)
              rw [if_neg Bool.false_ne_true, if_neg Bool.false_ne_true, ih, hgone]
              rfl

/-- Pieces that begin with one that carries a part can be read back from their text. -/
theorem parts_unsplit_plain {pieces : List (List Char)} (hslash : ∀ piece ∈ pieces, '/' ∉ piece)
    (hfirst : ∀ first, pieces.head? = some first → isTrivial first = false) :
    (unsplit .plain pieces).parts = pieces.flatMap pieceParts := by
  cases pieces with
  | nil => rfl
  | cons first more =>
      have hsplit : (unsplit .plain (first :: more)).text.toList.splitOn '/' = first :: more := by
        rw [unsplit, String.toList_ofList]
        exact splitOn_joinPieces (List.cons_ne_nil first more) hslash
      have hnontrivial := hfirst first rfl
      unfold parts
      rcases split_cases (unsplit .plain (first :: more)) with
        ⟨cs, hcs, -⟩ | ⟨rest, hrest, -, -⟩ | ⟨-, -, hplain⟩
      · rw [hcs, Text.splitOn_separator] at hsplit
        rw [← (List.cons.inj hsplit).1] at hnontrivial
        cases hnontrivial
      · rw [hrest] at hsplit
        rw [← (List.cons.inj hsplit).1] at hnontrivial
        cases hnontrivial
      · rw [hplain, hsplit]
        rfl

theorem mem_dropParts {n : Nat} {pieces : List (List Char)} {piece : List Char}
    (h : piece ∈ dropParts n pieces) : piece ∈ pieces := by
  induction pieces generalizing n with
  | nil => cases n <;> cases h
  | cons first rest ih =>
      cases n with
      | zero => exact h
      | succ n =>
          rw [dropParts] at h
          split at h
          · exact List.mem_cons_of_mem first (ih h)
          · exact List.mem_cons_of_mem first (ih h)

theorem head?_trimEnd_dropWhile {pieces : List (List Char)} {first : List Char}
    (h : (trimEnd (pieces.dropWhile isTrivial)).head? = some first) : isTrivial first = false := by
  obtain ⟨after, hafter⟩ := trimEnd_beginning (pieces.dropWhile isTrivial)
  obtain ⟨more, hmore⟩ := List.head?_eq_some_iff.mp h
  have hfirst := List.head?_dropWhile_not isTrivial pieces
  rw [← hafter, hmore] at hfirst
  exact hfirst

/-- What is left of a path below another has the parts that were left. -/
theorem parts_relativeTo? {p base r : Path} (h : p.relativeTo? base = some r) :
    p.parts = base.parts ++ r.parts := by
  unfold relativeTo? at h
  split at h
  case isFalse => cases h
  case isTrue hbeginning =>
    rw [List.isPrefixOf_iff_prefix] at hbeginning
    split at h
    · next hzero =>
        obtain rfl := Option.some.inj h
        rw [List.length_eq_zero_iff.mp hzero]
        exact (parts_trimmed p).symm
    · next hsome =>
        obtain rfl := Option.some.inj h
        -- The base has a part, so the head of the path is among the parts of the base.
        have hhead : p.split.1.parts.length ≤ base.parts.length := by
          have hone : p.split.1.parts.length ≤ 1 := by cases p.split.1 <;> simp [Head.parts]
          have hne : base.parts.length ≠ 0 := hsome
          omega
        have hleft : p.parts.drop base.parts.length =
            (p.split.2.flatMap pieceParts).drop (base.parts.length - p.split.1.parts.length) := by
          rw [show p.parts = p.split.1.parts ++ p.split.2.flatMap pieceParts from rfl,
            List.drop_append, List.drop_eq_nil_of_le hhead, List.nil_append]
        rw [parts_unsplit_plain, parts_trimEnd, parts_dropWhile, parts_dropParts, ← hleft]
        · obtain ⟨rest, hrest⟩ := hbeginning
          rw [← hrest, List.drop_left]
        · intro piece hpiece
          have hmem := (trimEnd_beginning _).subset hpiece
          exact slash_notMem_split (List.prefix_refl _)
            (mem_dropParts ((List.dropWhile_suffix _).subset hmem))
        · intro first hfirst
          exact head?_trimEnd_dropWhile hfirst

/-- A path whose parts go on after those of another is seen from there. -/
theorem exists_relativeTo? {p base : Path} {rest : List Part} (h : p.parts = base.parts ++ rest) :
    ∃ r, p.relativeTo? base = some r ∧ r.parts = rest := by
  have hbeginning : base.parts.isPrefixOf p.parts = true :=
    List.isPrefixOf_iff_prefix.mpr ⟨rest, h.symm⟩
  obtain ⟨r, hr⟩ : ∃ r, p.relativeTo? base = some r := by
    unfold relativeTo?
    rw [if_pos hbeginning]
    split
    · exact ⟨_, rfl⟩
    · exact ⟨_, rfl⟩
  have hsame := (parts_relativeTo? hr).symm.trans h
  exact ⟨r, hr, List.append_cancel_left hsame⟩

theorem isInner_tail (p : Path) : ∀ part ∈ p.parts.tail, part.isInner = true := by
  intro part hpart
  have hmem : part ∈ p.split.2.flatMap pieceParts := by
    unfold parts at hpart
    cases hhead : p.split.1 with
    | root => rwa [hhead] at hpart
    | here => rwa [hhead] at hpart
    | plain =>
        rw [hhead] at hpart
        exact List.mem_of_mem_tail hpart
  obtain ⟨piece, -, hpiece⟩ := List.mem_flatMap.mp hmem
  exact isInner_pieceParts hpiece

/-- Behind the first part there is neither the root nor a leading dot. -/
theorem inner_after {p : Path} {before after : List Part} (h : p.parts = before ++ after)
    (hbefore : before ≠ []) : ∀ part ∈ after, part.isInner = true := by
  intro part hpart
  refine isInner_tail p part ?_
  rw [h, List.tail_append_of_ne_nil hbefore]
  exact List.mem_append_right _ hpart

/-- A path that begins with neither of them has only parts that pieces carry. -/
theorem filter_parts {p : Path} (hroot : p.parts.head? ≠ some .root)
    (hhere : p.parts.head? ≠ some .here) : p.parts.filter Part.isInner = p.parts := by
  refine List.filter_eq_self.mpr fun part hpart => ?_
  obtain ⟨first, rest, hfirst⟩ := List.exists_cons_of_ne_nil (List.ne_nil_of_mem hpart)
  have hrest : ∀ part ∈ rest, part.isInner = true :=
    inner_after (show p.parts = [first] ++ rest from hfirst) (List.cons_ne_nil first [])
  rw [hfirst] at hroot hhere hpart
  rcases List.mem_cons.mp hpart with rfl | hmem
  · cases part with
    | root => exact absurd rfl hroot
    | here => exact absurd rfl hhere
    | up => rfl
    | name _ => rfl
  · exact hrest part hmem

section Moved

variable {base root text p : Path} (hp : p.parts = (base.join text).parts)

include hp

/-- A text that starts at the root of the system replaces every path before it.  It is seen only
from a path that starts there too. -/
theorem parts_join_of_root (htext : text.parts.head? = some .root)
    (hbase : base.isAbsolute = true → root.parts = base.parts) :
    (root.join ((p.relativeTo? base).getD p)).parts = (root.join text).parts := by
  rw [parts_join, joinParts_root htext] at hp
  rw [parts_join, parts_join]
  cases hseen : p.relativeTo? base with
  | none => rw [Option.getD_none, hp]
  | some r =>
      have hparts : text.parts = base.parts ++ r.parts := hp ▸ parts_relativeTo? hseen
      rw [Option.getD_some]
      by_cases hempty : base.parts = []
      · rw [hparts, hempty, List.nil_append]
      · have hinner := inner_after hparts hempty
        have habsolute : base.isAbsolute = true := by
          rw [isAbsolute_eq_parts, ← htext, hparts, List.head?_append_of_ne_nil _ hempty]
        have hhead : r.parts.head? ≠ some .root := fun h =>
          absurd (hinner _ (List.mem_of_head? h)) Bool.false_ne_true
        have hroot := hbase habsolute
        rw [joinParts_root htext, joinParts_below hhead (hroot ▸ hempty),
          List.filter_eq_self.mpr hinner, hroot, hparts]

/-- Any other text is seen from where it was put, as it is. -/
theorem parts_join_of_below (hroot : text.parts.head? ≠ some .root)
    (hhere : text.parts.head? ≠ some .here) :
    (root.join ((p.relativeTo? base).getD p)).parts = (root.join text).parts := by
  have hbelow : p.parts = base.parts ++ text.parts := by
    rw [hp, parts_join]
    by_cases hempty : base.parts = []
    · rw [hempty, joinParts_nil, List.nil_append]
    · rw [joinParts_below hroot hempty, filter_parts hroot hhere]
  obtain ⟨r, hr, hparts⟩ := exists_relativeTo? hbelow
  rw [hr, Option.getD_some, parts_join, parts_join, hparts]

/-- A text below one path, seen from there and put below another, has the parts that it would have
had there at once. -/
theorem parts_join_relativeTo? (hhere : text.parts.head? ≠ some .here)
    (hbase : base.isAbsolute = true → root.parts = base.parts) :
    (root.join ((p.relativeTo? base).getD p)).parts = (root.join text).parts := by
  by_cases hroot : text.parts.head? = some .root
  · exact parts_join_of_root hp hroot hbase
  · exact parts_join_of_below hp hroot hhere

end Moved

/-! ## Parents -/

/-- A parent lacks the last part. -/
theorem parts_parent? {p q : Path} (h : p.parent? = some q) : q.parts = p.parts.dropLast := by
  have htrim := parts_trimEnd p.split.2
  rw [parent?_eq] at h
  split at h
  · next hnil =>
      rw [hnil] at htrim
      have hparts : p.parts = p.split.1.parts := by
        rw [parts, ← htrim]
        exact List.append_nil _
      rw [hparts]
      cases hhead : p.split.1 with
      | here =>
          rw [hhead] at h
          cases h
          rfl
      | root => rw [hhead] at h; cases h
      | plain => rw [hhead] at h; cases h
  · next hne =>
      obtain ⟨init, last, hkept, hlast⟩ := (trimEnd_cases p.split.2).resolve_left hne
      obtain ⟨part, hpart⟩ : ∃ part, pieceParts last = [part] := by
        refine List.length_eq_one_iff.mp ?_
        rw [length_pieceParts, hlast]
        rfl
      rw [hkept, List.dropLast_concat] at h
      obtain rfl := Option.some.inj h
      have hinit : trimEnd init <+: p.split.2 := by
        refine (trimEnd_beginning init).trans (List.IsPrefix.trans ?_ (trimEnd_beginning _))
        rw [hkept]
        exact List.prefix_append _ _
      rw [parts_keep hinit, parts_trimEnd, parts, ← htrim, hkept, List.flatMap_append,
        List.flatMap_singleton, hpart, ← List.append_assoc, List.dropLast_concat]

/-- A path that ends in a name has a parent. -/
theorem exists_parent? {p : Path} {ps : List Part} {name : String}
    (h : p.parts = ps ++ [.name name]) : ∃ q, p.parent? = some q ∧ q.parts = ps := by
  obtain ⟨q, hq⟩ : ∃ q, p.parent? = some q := by
    cases hparent : p.parent? with
    | some q => exact ⟨q, rfl⟩
    | none =>
        have htrim := parts_trimEnd p.split.2
        have hlast : p.parts.getLast? = some (.name name) := by rw [h, List.getLast?_concat]
        rw [parent?_eq] at hparent
        split at hparent
        · next hnil =>
            rw [hnil] at htrim
            rw [parts, ← htrim] at hlast
            cases hhead : p.split.1 with
            | here => rw [hhead] at hparent; cases hparent
            | root => rw [hhead] at hlast; cases hlast
            | plain => rw [hhead] at hlast; cases hlast
        · cases hparent
  refine ⟨q, hq, ?_⟩
  rw [parts_parent? hq, h, List.dropLast_concat]

end Path

end CrudStack
