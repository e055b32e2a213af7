/-
# `CrudStack.Proofs.Path.Stem` — the name of a file and its stem

The file name of a path is one of its parts, so it is never empty, has no slash and is not one of
the two dots.  The stem is what stands before the last dot of it, and for the stem only two of these
three facts hold.  A file name that begins with dots may be cut behind them: the stem of `..json` is
`.`, and the stem of `...json` is `..`.

`CutAfter` says of the file name alone where it is cut.  No other file name has a stem of dots
(`stem?_eq_dots_iff`).
-/
import CrudStack.Proofs.Path.Within
import CrudStack.Proofs.Text.Taken

namespace CrudStack

namespace Path

/-! ## Cutting a name at its last dot -/

theorem splitAtDot_append {stem ending : String} (hne : stem ≠ "") (hending : '.' ∉ ending.toList) :
    splitAtDot (stem ++ "." ++ ending) = some (stem, ending) := by
  have hreverse : (stem ++ "." ++ ending).toList.reverse =
      ending.toList.reverse ++ '.' :: stem.toList.reverse := by simp
  have hbehind : ∀ c ∈ ending.toList.reverse, decide (c ≠ '.') = true := by
    intro c hc
    refine decide_eq_true ?_
    rintro rfl
    exact hending (List.mem_reverse.mp hc)
  have hstops : Text.Stops (fun c : Char => decide (c ≠ '.')) ('.' :: stem.toList.reverse) :=
    Text.stops_cons.mpr (by decide)
  obtain ⟨last, front, hfront⟩ : ∃ last front, stem.toList.reverse = last :: front := by
    refine List.exists_cons_of_ne_nil ?_
    intro hnil
    exact hne (String.toList_eq_nil_iff.mp (List.reverse_eq_nil_iff.mp hnil))
  unfold splitAtDot
  dsimp only
  rw [hreverse, Text.dropWhile_append hbehind hstops, List.takeWhile_append_of_pos hbehind,
    Text.takeWhile_of_stops hstops, List.append_nil, hfront]
  dsimp only
  rw [← hfront, List.reverse_reverse, List.reverse_reverse, String.ofList_toList,
    String.ofList_toList]

/-- A file name is cut at a dot that has something before it and no other dot behind it. -/
theorem splitAtDot_eq_some_iff {name stem ending : String} :
    splitAtDot name = some (stem, ending) ↔
      name = stem ++ "." ++ ending ∧ stem ≠ "" ∧ '.' ∉ ending.toList := by
  constructor
  · intro h
    have hwhole := List.takeWhile_append_dropWhile (p := fun c : Char => decide (c ≠ '.'))
      (l := name.toList.reverse)
    have hdot := List.head?_dropWhile_not (fun c : Char => decide (c ≠ '.')) name.toList.reverse
    unfold splitAtDot at h
    dsimp only at h
    split at h
    · cases h
    · cases h
    · next dot before hlong hdrop =>
        obtain ⟨rfl, rfl⟩ := Prod.mk.inj (Option.some.inj h)
        rw [hdrop] at hwhole hdot
        obtain rfl : dot = '.' := by simpa using hdot
        have hparts := congrArg List.reverse hwhole
        rw [List.reverse_reverse, List.reverse_append, List.reverse_cons] at hparts
        refine ⟨?_, ?_, ?_⟩
        · refine String.toList_inj.mp (hparts.symm.trans ?_)
          simp only [String.toList_append, String.toList_ofList]
          rfl
        · intro hempty
          exact hlong (by simpa using hempty)
        · intro hmem
          rw [String.toList_ofList, List.mem_reverse] at hmem
          simpa using List.mem_takeWhile_imp hmem
  · rintro ⟨rfl, hne, hending⟩
    exact splitAtDot_append hne hending

/-! ## Names and stems -/

theorem mem_of_fileName? {p : Path} {name : String} (h : p.fileName? = some name) :
    Part.name name ∈ p.parts := by
  unfold fileName? at h
  split at h
  · next hlast =>
      obtain rfl := Option.some.inj h
      exact List.mem_of_getLast? hlast
  · cases h

/-- The last dot of the file name stands right behind `stem`. -/
def CutAfter (p : Path) (stem : String) : Prop :=
  ∃ ending : String, '.' ∉ ending.toList ∧ p.fileName? = some (stem ++ "." ++ ending)

theorem stem?_of_cutAfter {p : Path} {stem : String} (hne : stem ≠ "") (h : p.CutAfter stem) :
    p.stem? = some stem := by
  obtain ⟨ending, hending, hname⟩ := h
  rw [stem?, hname, Option.map_some, splitAtDot_append hne hending]
  rfl

/-- A stem is the file name up to its last dot, or all of the file name. -/
theorem stem?_cases {p : Path} {stem : String} (h : p.stem? = some stem) :
    stem ≠ "" ∧ p.CutAfter stem ∨ p.fileName? = some stem := by
  obtain ⟨name, hname, hstem⟩ := Option.map_eq_some_iff.mp h
  cases hsplit : splitAtDot name with
  | none =>
      rw [hsplit] at hstem
      exact .inr (hname.trans (congrArg some hstem))
  | some pair =>
      obtain ⟨before, ending⟩ := pair
      rw [hsplit] at hstem
      obtain rfl : before = stem := hstem
      obtain ⟨hcut, hne, hending⟩ := splitAtDot_eq_some_iff.mp hsplit
      exact .inl ⟨hne, ending, hending, hname.trans (congrArg some hcut)⟩

/-- A stem is not empty and has no slash. -/
theorem stem?_eq_some {p : Path} {stem : String} (h : p.stem? = some stem) :
    stem ≠ "" ∧ '/' ∉ stem.toList := by
  rcases stem?_cases h with ⟨hne, ending, -, hname⟩ | hname
  · obtain ⟨hslash, -, -⟩ := name_of_mem_parts (mem_of_fileName? hname)
    refine ⟨hne, ?_⟩
    intro hmem
    refine hslash ?_
    rw [String.toList_append, String.toList_append]
    exact List.mem_append_left _ (List.mem_append_left _ hmem)
  · obtain ⟨hslash, hne, -⟩ := name_of_mem_parts (mem_of_fileName? hname)
    exact ⟨hne, hslash⟩

/-- A stem is one of the two dots just if the file name is cut behind them. -/
theorem stem?_eq_dots_iff {p : Path} {dots : String} (hdots : Disk.isDots dots = true) :
    p.stem? = some dots ↔ p.CutAfter dots := by
  refine ⟨?_, stem?_of_cutAfter ?_⟩
  · intro h
    rcases stem?_cases h with ⟨-, hcut⟩ | hname
    · exact hcut
    · obtain ⟨-, -, hname⟩ := name_of_mem_parts (mem_of_fileName? hname)
      rw [hname] at hdots
      cases hdots
  · rintro rfl
    cases hdots

end Path

end CrudStack
