/-
# `CrudStack.Proofs.Path.Spelled` — the text of a path that is put together from names

On a disk only the parts of a path count, and two spellings of one place are as good as each other.
A plan shows its paths as texts, where a slash too many or a dot would be seen.  Names that are put
below each other are spelled with one slash between them and nothing else (`text_ofSegments`), and
so they are seen from any path that they were put below (`relativeTo?_ofSegments`).
-/
import CrudStack.Proofs.Path.Within

namespace CrudStack

/-- Two rows of texts with a separator between all of them. -/
theorem intercalate_append (s : String) : ∀ {ns ms : List String}, ns ≠ [] → ms ≠ [] →
    s.intercalate (ns ++ ms) = s.intercalate ns ++ s ++ s.intercalate ms
  | [], _, hn, _ => absurd rfl hn
  | [n], [], _, hm => absurd rfl hm
  | [n], m :: ms, _, _ => by
      rw [List.singleton_append, String.intercalate_cons_cons, String.intercalate_singleton]
  | n :: n' :: ns, ms, _, hm => by
      have ih := intercalate_append s (List.cons_ne_nil n' ns) hm
      rw [List.cons_append, List.cons_append, String.intercalate_cons_cons, ← List.cons_append, ih,
        String.intercalate_cons_cons]
      simp only [String.append_assoc]

/-- The characters of a row of texts come from the texts or from what is between them. -/
theorem mem_intercalate {s : String} {c : Char} : ∀ {ns : List String},
    c ∈ (s.intercalate ns).toList → c ∈ s.toList ∨ ∃ n ∈ ns, c ∈ n.toList
  | [], h => by
      rw [String.intercalate_nil] at h
      cases h
  | [n], h => by
      rw [String.intercalate_singleton] at h
      exact .inr ⟨n, List.mem_cons_self, h⟩
  | n :: m :: ns, h => by
      rw [String.intercalate_cons_cons, String.toList_append, String.toList_append,
        List.mem_append, List.mem_append] at h
      rcases h with (hn | hs) | hrest
      · exact .inr ⟨n, List.mem_cons_self, hn⟩
      · exact .inl hs
      · exact (mem_intercalate hrest).imp_right fun ⟨k, hk, hc⟩ =>
          ⟨k, List.mem_cons_of_mem n hk, hc⟩

namespace Path

/-- A text that is one piece of a path and carries a part. -/
structure IsName (name : String) : Prop where
  ne_empty : name ≠ ""
  ne_dot : name ≠ "."
  slash : '/' ∉ name.toList

namespace IsName

variable {name : String} (h : IsName name)

include h

theorem isPlain : IsPlain ⟨name⟩ := isPlain_of_notMem h.slash h.ne_dot

theorem needsSlash : (⟨name⟩ : Path).needsSlash = true := by
  unfold Path.needsSlash
  cases hlast : name.toList.getLast? with
  | none =>
      exact absurd (String.toList_eq_nil_iff.mp (List.getLast?_eq_none_iff.mp hlast)) h.ne_empty
  | some c =>
      have hc : c ≠ '/' := fun hc => h.slash (hc ▸ List.mem_of_getLast? hlast)
      simpa using hc

theorem isTrivial : isTrivial name.toList = false := by
  have hempty : name.toList ≠ [] := fun e => h.ne_empty (String.toList_eq_nil_iff.mp e)
  have hdot : name.toList ≠ ['.'] := fun e => h.ne_dot (String.toList_inj.mp e)
  simp [Path.isTrivial, hempty, hdot]

end IsName

/-! ## Names below each other -/

/-- Names below a path that does not end in a slash. -/
theorem text_foldl_child {names : List String} (h : ∀ n ∈ names, IsName n) :
    ∀ {p : Path}, p.needsSlash = true →
      (names.foldl child p).text = "/".intercalate (p.text :: names) ∧
        (names.foldl child p).needsSlash = true := by
  induction names with
  | nil => exact fun hp => ⟨String.intercalate_singleton.symm, hp⟩
  | cons n rest ih =>
      intro p hp
      have hn := h n List.mem_cons_self
      have hchild := child_of_needsSlash hp hn.isPlain.isAbsolute
      obtain ⟨htext, hslash⟩ :=
        ih (fun m hm => h m (List.mem_cons_of_mem n hm)) (needsSlash_child p hn.needsSlash)
      refine ⟨?_, hslash⟩
      rw [List.foldl_cons, htext, hchild]
      cases rest with
      | nil => simp [String.append_assoc]
      | cons m rest => simp only [String.intercalate_cons_cons, String.append_assoc]

section Names

variable {names : List String} (h : ∀ n ∈ names, IsName n)

include h

theorem ofSegments_cons (hne : names ≠ []) :
    (ofSegments names).text = "/".intercalate names ∧ (ofSegments names).needsSlash = true := by
  obtain ⟨n, rest, rfl⟩ := List.exists_cons_of_ne_nil hne
  have hn := h n List.mem_cons_self
  have hfirst : (⟨""⟩ : Path).child n = ⟨n⟩ := child_of_empty rfl
  rw [ofSegments, List.foldl_cons, hfirst]
  exact text_foldl_child (fun m hm => h m (List.mem_cons_of_mem n hm)) hn.needsSlash

/-- The text of names below each other. -/
theorem text_ofSegments : (ofSegments names).text = "/".intercalate names := by
  cases names with
  | nil => rfl
  | cons n rest => exact (ofSegments_cons h (List.cons_ne_nil n rest)).1

theorem isPlain_ofSegments : (ofSegments names).IsPlain :=
  (foldl_child (fun n hn => (h n hn).isPlain) ⟨""⟩).1

theorem split_ofSegments (hne : names ≠ []) :
    (ofSegments names).split.2 = names.map String.toList := by
  have hslash : ∀ piece ∈ names.map String.toList, '/' ∉ piece := by
    intro piece hpiece
    obtain ⟨n, hn, rfl⟩ := List.mem_map.mp hpiece
    exact (h n hn).slash
  have htext : (ofSegments names).text.toList = joinPieces (names.map String.toList) := by
    rw [text_ofSegments h, String.toList_intercalate]
    rfl
  rw [(isPlain_ofSegments h).split, htext, splitOn_joinPieces (by simpa using hne) hslash]

/-- Names below each other have nothing at their end to be trimmed. -/
theorem trimmed_ofSegments (hne : names ≠ []) : (ofSegments names).trimmed = ofSegments names := by
  have hkept : trimEnd (ofSegments names).split.2 = (ofSegments names).split.2 := by
    rw [split_ofSegments h hne]
    refine List.rdropWhile_eq_self_iff.mpr fun hlast => ?_
    obtain ⟨n, hn, heq⟩ := List.mem_map.mp (List.getLast_mem hlast)
    rw [← heq, (h n hn).isTrivial]
    exact Bool.false_ne_true
  rw [trimmed, hkept, text_eq_split]

/-- Names that were put below a path are seen from there as they are. -/
theorem relativeTo?_ofSegments (hne : names ≠ []) (base : Path) :
    (base.join (ofSegments names)).relativeTo? base = some (ofSegments names) :=
  (relativeTo?_child base (isPlain_ofSegments h)).trans (congrArg some (trimmed_ofSegments h hne))

/-- More names below names. -/
theorem join_ofSegments {more : List String} (hmore : ∀ n ∈ more, IsName n) (hne : names ≠ [])
    (hne' : more ≠ []) (base : Path) :
    (base.join (ofSegments names)).join (ofSegments more) =
      base.join (ofSegments (names ++ more)) := by
  obtain ⟨htext, hslash⟩ := ofSegments_cons h hne
  have hplain := isPlain_ofSegments hmore
  have hall : ∀ n ∈ names ++ more, IsName n := fun n hn =>
    (List.mem_append.mp hn).elim (h n) (hmore n)
  have hjoined : (ofSegments names).join (ofSegments more) = ofSegments (names ++ more) := by
    have hchild : (ofSegments names).join (ofSegments more) =
        ⟨(ofSegments names).text ++ "/" ++ (ofSegments more).text⟩ :=
      child_of_needsSlash hslash hplain.isAbsolute
    have hsame : (ofSegments names).text ++ "/" ++ (ofSegments more).text =
        (ofSegments (names ++ more)).text := by
      rw [htext, text_ofSegments hmore, text_ofSegments hall, intercalate_append "/" hne hne']
    exact hchild.trans (congrArg Path.mk hsame)
  have hnonempty : (ofSegments names).text ≠ "" := by
    intro hempty
    rw [Path.needsSlash, hempty] at hslash
    cases hslash
  rw [← hjoined]
  exact child_child base (isPlain_ofSegments h) hnonempty hplain

end Names

/-- One more name below names that are below a path. -/
theorem child_join_ofSegments {names : List String} (h : ∀ n ∈ names, IsName n) (hne : names ≠ [])
    {name : String} (hname : IsName name) (base : Path) :
    (base.join (ofSegments names)).child name = base.join (ofSegments (names ++ [name])) := by
  have hsingle : ofSegments [name] = ⟨name⟩ := child_of_empty rfl
  have hmore : ∀ n ∈ [name], IsName n := fun n hn => List.mem_singleton.mp hn ▸ hname
  rw [← join_ofSegments h hmore hne (List.cons_ne_nil name []) base, hsingle, child]

/-- One more name below names. -/
theorem child_ofSegments {names : List String} (name : String) :
    (ofSegments names).child name = ofSegments (names ++ [name]) := by
  rw [ofSegments, ofSegments, List.foldl_append]
  rfl

end Path

end CrudStack
