/-
# `CrudStack.Proofs.Path.Within` — longer texts below a path

A directory of a project is a text below the root of the project, put together name by name.  Such a
path is `Within` the root: its pieces are known, what is seen of it from the root is known, and both
stay known when a name is added (`Within.child`).  What is seen can be joined to any other root, and
leads down by the same names there.
-/
import CrudStack.Proofs.Path.Parent

namespace CrudStack

namespace Path

open Disk (pieces)

/-! ## Single names -/

instance (p : Path) : Decidable p.IsPlain := inferInstanceAs (Decidable (p.split.1 = .plain))

theorem isPlain_of_notMem {name : String} (h : '/' ∉ name.toList) (hdot : name ≠ ".") :
    IsPlain ⟨name⟩ := by
  have hpieces := List.splitOn_eq_singleton h
  rcases split_cases ⟨name⟩ with ⟨cs, hcs, -⟩ | ⟨more, hmore, -, -⟩ | ⟨-, -, hsplit⟩
  · exact absurd (hcs ▸ List.mem_cons_self) h
  · rw [hpieces] at hmore
    refine absurd ?_ hdot
    rw [← String.toList_inj, (List.cons.inj hmore).1]
    rfl
  · rw [IsPlain, hsplit]

theorem pieces_of_notMem {name : String} (h : '/' ∉ name.toList) :
    pieces ⟨name⟩ = names [name.toList] :=
  congrArg names (List.splitOn_eq_singleton h)

theorem pieces_name {name : String} (h : '/' ∉ name.toList) (hne : name ≠ "") :
    pieces ⟨name⟩ = [name] := by
  have hchars : name.toList ≠ [] := fun e => hne (String.toList_eq_nil_iff.mp e)
  rw [pieces_of_notMem h]
  simp [names, hchars]

/-- A text consists of its pieces and of slashes. -/
theorem mem_text {p : Path} {c : Char} (h : c ∈ p.text.toList) :
    c = '/' ∨ ∃ n ∈ pieces p, c ∈ n.toList := by
  refine (Text.mem_piece_or_eq h).imp_right fun ⟨piece, hpiece, hmem⟩ => ?_
  have hne : (!piece.isEmpty) = true := by
    cases piece with
    | nil => cases hmem
    | cons x rest => rfl
  refine ⟨String.ofList piece, List.mem_map_of_mem (List.mem_filter.mpr ⟨hpiece, hne⟩), ?_⟩
  rwa [String.toList_ofList]

theorem mem_of_mem_pieces {p : Path} {n : String} (h : n ∈ pieces p) {c : Char}
    (hc : c ∈ n.toList) : c ∈ p.text.toList := by
  obtain ⟨piece, hpiece, rfl⟩ := List.mem_map.mp h
  rw [String.toList_ofList] at hc
  exact (Text.mem_of_mem_piece (List.mem_filter.mp hpiece).1 hc).1

/-- A part that is a name is not empty, has no slash, and is not one of the two dots. -/
theorem name_of_mem_parts {p : Path} {name : String} (h : Part.name name ∈ p.parts) :
    '/' ∉ name.toList ∧ name ≠ "" ∧ Disk.isDots name = false := by
  obtain ⟨piece, hpiece, hname⟩ : ∃ piece ∈ p.split.2, Part.name name ∈ pieceParts piece := by
    rcases List.mem_append.mp h with hhead | hpieces
    · cases hsplit : p.split.1 <;> simp [hsplit, Head.parts] at hhead
    · exact List.mem_flatMap.mp hpieces
  unfold pieceParts at hname
  split at hname
  · cases hname
  · next htrivial =>
      split at hname
      · cases List.mem_singleton.mp hname
      · next hup =>
          obtain rfl := Part.name.inj (List.mem_singleton.mp hname)
          have hslash := slash_notMem_split (List.prefix_refl _) hpiece
          simp only [isTrivial, Bool.or_eq_true, decide_eq_true_eq, not_or] at htrivial
          refine ⟨by rwa [String.toList_ofList], by simpa using htrivial.1, ?_⟩
          rw [Disk.isDots, Bool.or_eq_false_iff, decide_eq_false_iff_not, decide_eq_false_iff_not,
            ← String.toList_inj, ← String.toList_inj, String.toList_ofList]
          exact ⟨htrivial.2, hup⟩

/-- A text that is one part, and a name at that, is no more than this name. -/
theorem name_of_parts {name : String} (h : (⟨name⟩ : Path).parts = [.name name]) :
    '/' ∉ name.toList ∧ name ≠ "" ∧ Disk.isDots name = false :=
  name_of_mem_parts (h ▸ List.mem_cons_self)

/-! ## Several names in a row -/

/-- Names below a path bring their own pieces and leave its head alone. -/
theorem foldl_child {texts : List String} (h : ∀ t ∈ texts, IsPlain ⟨t⟩) (p : Path) :
    (texts.foldl child p).split.1 = p.split.1 ∧
      pieces (texts.foldl child p) = pieces p ++ texts.flatMap fun t => pieces ⟨t⟩ := by
  induction texts generalizing p with
  | nil => exact ⟨rfl, (List.append_nil _).symm⟩
  | cons t rest ih =>
      have ht := h t List.mem_cons_self
      obtain ⟨hhead, hpieces⟩ := ih (fun u hu => h u (List.mem_cons_of_mem t hu)) (p.child t)
      obtain ⟨xs, -, hsplit⟩ := split_child p ht
      rw [List.foldl_cons, hhead, hpieces, pieces_child p ht, hsplit, List.flatMap_cons,
        List.append_assoc]
      exact ⟨rfl, rfl⟩

/-! ## Paths within a path -/

/-- One path is another with a text behind it that has these pieces. -/
def Within (base p : Path) (ns : List String) : Prop :=
  ∃ text, text ≠ "" ∧ IsPlain ⟨text⟩ ∧ p = base.child text ∧ pieces ⟨text⟩ = ns

theorem within_child (base : Path) {name : String} (h : IsPlain ⟨name⟩) (hne : name ≠ "") :
    Within base (base.child name) (pieces ⟨name⟩) :=
  ⟨name, hne, h, rfl, rfl⟩

/-- A path is seen from another as a plain path with these pieces. -/
def Seen (base p : Path) (ns : List String) : Prop :=
  ∃ q, p.relativeTo? base = some q ∧ q.IsPlain ∧ pieces q = ns

theorem seen_self (p : Path) : Seen p p [] := ⟨⟨""⟩, relativeTo?_self p, rfl, rfl⟩

namespace Within

variable {base p : Path} {ns : List String}

theorem child (h : Within base p ns) {name : String} (hname : IsPlain ⟨name⟩) :
    Within base (p.child name) (ns ++ pieces ⟨name⟩) := by
  obtain ⟨text, hne, hplain, rfl, rfl⟩ := h
  refine ⟨((⟨text⟩ : Path).child name).text, ?_, isPlain_child hplain hname,
    child_child base hplain hne hname, pieces_child ⟨text⟩ hname⟩
  rw [child_eq _ hname, openText]
  split <;> simp [hne]

theorem join (h : Within base p ns) {q : Path} (hq : q.IsPlain) :
    Within base (p.join q) (ns ++ Disk.pieces q) := by
  have hname : IsPlain ⟨q.text⟩ := hq
  exact h.child hname

/-- A text that is not empty begins with a name. -/
theorem ne_nil (h : Within base p ns) : ns ≠ [] := by
  obtain ⟨text, hne, hplain, -, rfl⟩ := h
  obtain ⟨first, more, hfirst, htrivial⟩ := hplain.first.resolve_left hne
  have hpieces : Disk.pieces ⟨text⟩ = names ([first] ++ more) := congrArg names hfirst
  rw [hpieces, names_append, names_singleton htrivial]
  exact List.cons_ne_nil _ _

theorem pieces (h : Within base p ns) : Disk.pieces p = Disk.pieces base ++ ns := by
  obtain ⟨text, -, hplain, rfl, rfl⟩ := h
  exact pieces_child base hplain

theorem isAbsolute (h : Within base p ns) : p.isAbsolute = base.isAbsolute := by
  obtain ⟨text, -, hplain, rfl, -⟩ := h
  exact isAbsolute_child base hplain

theorem seen (h : Within base p ns) (hdots : ∀ n ∈ ns, n ≠ ".") : Seen base p ns := by
  obtain ⟨text, -, hplain, rfl, rfl⟩ := h
  obtain ⟨dots, hpieces, hall⟩ := (⟨text⟩ : Path).pieces_trimmed
  have hnone : dots = [] := by
    rw [List.eq_nil_iff_forall_not_mem]
    intro n hn
    exact hdots n (hpieces ▸ List.mem_append_right _ hn) (hall n hn)
  refine ⟨_, relativeTo?_child base hplain, ?_, ?_⟩
  · exact (split_keep (trimEnd_beginning _)).1.trans hplain
  · rw [hpieces, hnone, List.append_nil]

end Within

theorem text_child (p : Path) {name : String} (h : IsPlain ⟨name⟩) :
    p.text.toList <+: (p.child name).text.toList := by
  have hopen : p.text.toList <+: p.openText.toList := by
    unfold openText
    split
    · rw [String.toList_append]
      exact List.prefix_append _ _
    · exact List.prefix_refl _
  rw [child_eq p h, String.toList_append]
  exact hopen.trans (List.prefix_append _ _)

/-- A path that ends in a name does not end in a slash. -/
theorem endsInSlash_child (p : Path) {name : String} (h : IsPlain ⟨name⟩)
    (hne : name ≠ "") : Disk.endsInSlash (p.child name) = Disk.endsInSlash ⟨name⟩ := by
  have hchars : name.toList ≠ [] := fun e => hne (String.toList_eq_nil_iff.mp e)
  rw [child_eq p h, Disk.endsInSlash, String.toList_append, List.getLast?_append_of_ne_nil _ hchars]
  rfl

end Path

end CrudStack
