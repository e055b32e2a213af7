/-
# `CrudStack.Proofs.Template.Asked` — an expansion depends on the names that are asked for

A template asks its data for some names and never sees the others.  `askedByBlocks` lists the names:
those of slots, of repetitions and of conditions.  What stands inside a repetition is asked of the
elements and not of the data, so it does not count: the elements are the value of a name that does.

Main statement: data that say the same under the names a template asks for expand to the same lines
(`expand_congr`).  Which names a concrete template asks for is a computation over its blocks, so
that nothing below or above this module looks at the texts.
-/
import CrudStack.Proofs.Template.Expansion

namespace CrudStack.Template

/-- The names that a part of a line asks for. -/
def askedByPiece : Piece → List String
  | .text _ => []
  | .slot name => [name]

mutual

/-- The names that a block asks its data for. -/
def askedByBlock : Block → List String
  | .line pieces => pieces.flatMap askedByPiece
  | .each name _ => [name]
  | .cond name yes no => name :: (askedByBlocks yes ++ askedByBlocks no)

/-- The names that several blocks ask their data for. -/
def askedByBlocks : List Block → List String
  | [] => []
  | block :: rest => askedByBlock block ++ askedByBlocks rest

end

/-- The names that a template asks its data for. -/
def asked (t : Template) : List String := askedByBlocks t.blocks

/-- Data that say the same under some names.  The name of the data itself is not among them: under
that name only the same data say the same. -/
def AgreeOn (names : List String) (d d' : Document) : Prop :=
  ∀ name ∈ names, name ≠ selfName ∧ entryAt d name = entryAt d' name

theorem AgreeOn.mono {names more : List String} {d d' : Document} (h : AgreeOn more d d')
    (hsub : names ⊆ more) : AgreeOn names d d' := fun name hname => h name (hsub hname)

theorem AgreeOn.append {names more : List String} {d d' : Document} (h : AgreeOn names d d')
    (h' : AgreeOn more d d') : AgreeOn (names ++ more) d d' := fun name hname =>
  (List.mem_append.mp hname).elim (h name) (h' name)

variable {d d' : Document}

/-- It is enough to look up all the names on either side. -/
theorem agreeOn_of_entries {names : List String} (hself : selfName ∉ names)
    (h : names.map (entryAt d) = names.map (entryAt d')) : AgreeOn names d d' := by
  intro name hname
  refine ⟨?_, List.map_inj_left.mp h name hname⟩
  rintro rfl
  exact hself hname

theorem slotText_congr {name : String} (h : AgreeOn [name] d d') :
    slotText d name = slotText d' name := by
  obtain ⟨hself, hvalue⟩ := h name List.mem_cons_self
  rw [slotText, slotText, if_neg hself, if_neg hself, hvalue]

theorem fill_congr : ∀ {pieces : List Piece}, AgreeOn (pieces.flatMap askedByPiece) d d' →
    fill d pieces = fill d' pieces
  | [], _ => rfl
  | .text s :: pieces, h => by
      have hrest : AgreeOn (pieces.flatMap askedByPiece) d d' := h
      rw [fill, fill, fill_congr hrest]
  | .slot name :: pieces, h => by
      have hname : AgreeOn [name] d d' := h.mono (List.subset_append_left _ _)
      have hrest : AgreeOn (pieces.flatMap askedByPiece) d d' :=
        h.mono (List.subset_append_right _ _)
      rw [fill, fill, slotText_congr hname, fill_congr hrest]

mutual

theorem expandBlock_congr : ∀ (block : Block), AgreeOn (askedByBlock block) d d' →
    expandBlock d block = expandBlock d' block
  | .line pieces, h => by
      rw [expandBlock, expandBlock, fill_congr h]
  | .each name body, h => by
      have hvalue := (h name List.mem_cons_self).2
      rw [expandBlock, expandBlock, elementsAt, elementsAt, hvalue]
  | .cond name yes no, h => by
      have hvalue := (h name List.mem_cons_self).2
      have hparts : AgreeOn (askedByBlocks yes ++ askedByBlocks no) d d' :=
        h.mono (List.subset_cons_self _ _)
      rw [expandBlock, expandBlock, holdsAt, holdsAt, hvalue,
        expandBlocks_congr yes (hparts.mono (List.subset_append_left _ _)),
        expandBlocks_congr no (hparts.mono (List.subset_append_right _ _))]

theorem expandBlocks_congr : ∀ (blocks : List Block), AgreeOn (askedByBlocks blocks) d d' →
    expandBlocks d blocks = expandBlocks d' blocks
  | [], _ => rfl
  | block :: rest, h => by
      rw [expandBlocks, expandBlocks,
        expandBlock_congr block (h.mono (List.subset_append_left _ _)),
        expandBlocks_congr rest (h.mono (List.subset_append_right _ _))]

end

/-- A template expands to the same lines for data that agree on what it asks for. -/
theorem expand_congr {t : Template} (h : AgreeOn t.asked d d') : t.expand d = t.expand d' :=
  expandBlocks_congr t.blocks h

end CrudStack.Template
