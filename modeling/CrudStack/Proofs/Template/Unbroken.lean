/-
# `CrudStack.Proofs.Template.Unbroken` — lines that can be read back from a content

A content is read by its line breaks, and a value with a line break of its own would make two lines
out of one.  Up to some line of a template this cannot happen if only names are inserted there whose
values have no line break (`slotsAmong`); below that line there may be anything.

Main statement: if a template has one line that begins with a marker, and nothing above it can
break, then a reader of the content finds the lines of the template up to that one, and that one is
the first that begins with the marker (`textLines_expand`, `find?_textLines`).
-/
import CrudStack.Proofs.Template.Reading
import CrudStack.Proofs.Text.LineBreak
import Mathlib.Data.List.TakeWhile

namespace CrudStack.Template

/-! ## Lines without line breaks -/

mutual

/-- The slots of a block are among `values`, and its repetitions insert nothing but the elements of
what is among `lists`. -/
def slotsAmongBlock (values lists : List String) : Block → Bool
  | .line pieces => pieces.all fun
    | .text _ => true
    | .slot name => values.contains name
  | .each name body => lists.contains name && slotsAmong [selfName] [] body
  | .cond _ yes no => slotsAmong values lists yes && slotsAmong values lists no

/-- The same for several blocks. -/
def slotsAmong (values lists : List String) : List Block → Bool
  | [] => true
  | block :: rest => slotsAmongBlock values lists block && slotsAmong values lists rest

end

/-- What stands under these names can be inserted without a line break. -/
structure UnbrokenAt (values lists : List String) (data : Document) : Prop where
  values : ∀ name ∈ values, '\n' ∉ (slotText data name).toList
  lists : ∀ name ∈ lists, ∀ item ∈ elementsAt data name, '\n' ∉ (shown item).toList

/-- An element of a list stands under the name of the data itself. -/
theorem unbrokenAt_item {item : Document} (h : '\n' ∉ (shown item).toList) :
    UnbrokenAt [selfName] [] item where
  values := fun name hname => by
    rw [List.mem_singleton.mp hname, slotText, if_pos rfl]
    exact h
  lists := fun _ hname => nomatch hname

theorem newline_notMem_of_isPlainText {last : Bool} : ∀ {cs : List Char},
    isPlainText last (cs.flatMap String.utf8EncodeChar) = true → '\n' ∉ cs
  | [], _ => List.not_mem_nil
  | c :: rest, h => by
      have hbefore := plainBefore_of_isPlainText h
      rw [List.mem_cons, not_or]
      exact ⟨Ne.symm hbefore.unbroken, newline_notMem_of_isPlainText hbefore.rest⟩

theorem newline_notMem_fill {data : Document} : ∀ {pieces : List Piece},
    isPlainLine pieces = true → (∀ name, .slot name ∈ pieces → '\n' ∉ (slotText data name).toList) →
      '\n' ∉ (fill data pieces).toList
  | [], _, _ => List.not_mem_nil
  | .text s :: rest, hplain, hslots => by
      rw [isPlainLine, Bool.and_eq_true, bytes_eq] at hplain
      have htext := newline_notMem_of_isPlainText hplain.1
      have hrest := newline_notMem_fill hplain.2 fun name hname =>
        hslots name (List.mem_cons_of_mem _ hname)
      rw [fill, String.toList_append, List.mem_append, not_or]
      exact ⟨htext, hrest⟩
  | .slot name :: rest, hplain, hslots => by
      rw [isPlainLine, Bool.and_eq_true] at hplain
      have hrest := newline_notMem_fill hplain.2 fun name hname =>
        hslots name (List.mem_cons_of_mem _ hname)
      rw [fill, String.toList_append, List.mem_append, not_or]
      exact ⟨hslots name List.mem_cons_self, hrest⟩

section Expansion

mutual

theorem newline_notMem_expandBlock {values lists : List String} {data : Document}
    (h : UnbrokenAt values lists data) : ∀ (block : Block), isPlainBlock block = true →
      slotsAmongBlock values lists block = true →
        ∀ line ∈ expandBlock data block, '\n' ∉ line.toList
  | .line pieces, hplain, hslots => by
      intro line hline
      rw [expandBlock, List.mem_singleton] at hline
      rw [hline]
      refine newline_notMem_fill hplain fun name hname => h.values name ?_
      have hslot := List.all_eq_true.mp hslots _ hname
      simpa using hslot
  | .each name body, hplain, hslots => by
      rw [isPlainBlock, Bool.and_eq_true] at hplain
      rw [slotsAmongBlock, Bool.and_eq_true] at hslots
      intro line hline
      rw [expandBlock] at hline
      obtain ⟨item, hitem, hline⟩ := List.mem_flatMap.mp hline
      have hbroken := h.lists name (by simpa using hslots.1) item hitem
      exact newline_notMem_expandBlocks (unbrokenAt_item hbroken) body hplain.2 hslots.2 line hline
  | .cond name yes no, hplain, hslots => by
      rw [isPlainBlock, Bool.and_eq_true, Bool.and_eq_true] at hplain
      rw [slotsAmongBlock, Bool.and_eq_true] at hslots
      intro line hline
      rw [expandBlock] at hline
      split at hline
      · exact newline_notMem_expandBlocks h yes hplain.1.2 hslots.1 line hline
      · exact newline_notMem_expandBlocks h no hplain.2 hslots.2 line hline

theorem newline_notMem_expandBlocks {values lists : List String} {data : Document}
    (h : UnbrokenAt values lists data) : ∀ (blocks : List Block), isPlainBlocks blocks = true →
      slotsAmong values lists blocks = true →
        ∀ line ∈ expandBlocks data blocks, '\n' ∉ line.toList
  | [], _, _ => nofun
  | block :: rest, hplain, hslots => by
      rw [isPlainBlocks, Bool.and_eq_true] at hplain
      rw [slotsAmong, Bool.and_eq_true] at hslots
      intro line hline
      rw [expandBlocks, List.mem_append] at hline
      exact hline.elim (newline_notMem_expandBlock h block hplain.1 hslots.1 line)
        (newline_notMem_expandBlocks h rest hplain.2 hslots.2 line)

end

end Expansion

/-! ## The lines down to a marked one -/

/-- The blocks of a template above a line. -/
def above (t : Template) (pieces : List Piece) : List Block :=
  t.blocks.takeWhile fun block => block ≠ .line pieces

/-- A template with one line of a sort, and with nothing above it that could break a line. -/
structure Opens (marker : String) (values lists : List String) (t : Template)
    (pieces : List Piece) : Prop where
  plain : isPlainBlocks t.blocks = true
  picks : Picks marker t [.line pieces]
  found : .line pieces ∈ t.blocks
  marked : marksLine marker pieces = true
  slots : slotsAmong values lists (t.above pieces ++ [.line pieces]) = true

instance (marker : String) (values lists : List String) (t : Template) (pieces : List Piece) :
    Decidable (Opens marker values lists t pieces) :=
  decidable_of_iff
    (isPlainBlocks t.blocks = true ∧ Picks marker t [.line pieces] ∧ .line pieces ∈ t.blocks ∧
      marksLine marker pieces = true ∧
        slotsAmong values lists (t.above pieces ++ [.line pieces]) = true)
    ⟨fun ⟨a, b, c, d, e⟩ => ⟨a, b, c, d, e⟩, fun ⟨a, b, c, d, e⟩ => ⟨a, b, c, d, e⟩⟩

theorem selectBlocks_append (marker : String) (as bs : List Block) :
    selectBlocks marker (as ++ bs) = selectBlocks marker as ++ selectBlocks marker bs := by
  induction as with
  | nil => rfl
  | cons a as ih => rw [List.cons_append, selectBlocks, ih, selectBlocks, List.append_assoc]

theorem decidesBlocks_append (marker : String) (as bs : List Block) :
    decidesBlocks marker (as ++ bs) = (decidesBlocks marker as && decidesBlocks marker bs) := by
  induction as with
  | nil => rfl
  | cons a as ih => rw [List.cons_append, decidesBlocks, ih, decidesBlocks, Bool.and_assoc]

theorem isPlainBlocks_append (as bs : List Block) :
    isPlainBlocks (as ++ bs) = (isPlainBlocks as && isPlainBlocks bs) := by
  induction as with
  | nil => rfl
  | cons a as ih => rw [List.cons_append, isPlainBlocks, ih, isPlainBlocks, Bool.and_assoc]

section Opens

variable {marker : String} {values lists : List String} {t : Template} {pieces : List Piece}
  (h : Opens marker values lists t pieces)

include h

/-- A template down to its marked line, and the rest. -/
theorem Opens.blocks_eq : ∃ below, t.blocks = t.above pieces ++ [.line pieces] ++ below := by
  have hsplit :
      t.above pieces ++ t.blocks.dropWhile (fun block => block ≠ .line pieces) = t.blocks :=
    List.takeWhile_append_dropWhile
  cases hrest : t.blocks.dropWhile (fun block => block ≠ .line pieces) with
  | nil =>
      have hall := List.dropWhile_eq_nil_iff.mp hrest (.line pieces) h.found
      simp at hall
  | cons first below =>
      have hfirst := List.head?_dropWhile_not (fun block => decide (block ≠ .line pieces)) t.blocks
      rw [hrest] at hfirst
      obtain rfl : first = .line pieces := by simpa using hfirst
      refine ⟨below, ?_⟩
      rw [← hsplit, hrest, List.append_assoc, List.singleton_append]

/-- No line above the marked one begins with the marker. -/
theorem Opens.above_unmarked (data : Document) :
    Template.marked marker (expandBlocks data (t.above pieces)) = [] := by
  obtain ⟨below, hblocks⟩ := h.blocks_eq
  have hdecides := h.picks.1
  have hselect := h.picks.2
  rw [hblocks, decidesBlocks_append, decidesBlocks_append, Bool.and_eq_true,
    Bool.and_eq_true] at hdecides
  have hself : selectBlocks marker [.line pieces] = [.line pieces] := by
    rw [selectBlocks, selectBlocks, selectBlock, if_pos h.marked, List.append_nil]
  rw [hblocks, selectBlocks_append, selectBlocks_append, hself] at hselect
  have hnone : selectBlocks marker (t.above pieces) = [] := by
    have hlength := congrArg List.length hselect
    simp only [List.length_append, List.length_singleton] at hlength
    exact List.eq_nil_of_length_eq_zero (by omega)
  rw [marked_expandBlocks marker _ data hdecides.1.1, hnone, expandBlocks]

variable {data : Document} (hdata : UnbrokenAt values lists data)

include hdata

/-- A reader finds the lines of the template down to the marked one. -/
theorem Opens.textLines_expand :
    ∃ rest, textLines (joinLines (t.expand data)) =
      expandBlocks data (t.above pieces) ++ fill data pieces :: rest := by
  obtain ⟨below, hblocks⟩ := h.blocks_eq
  have hplain := h.plain
  rw [hblocks, isPlainBlocks_append, Bool.and_eq_true] at hplain
  have hlines := newline_notMem_expandBlocks hdata _ hplain.1 h.slots
  refine ⟨textLines (joinLines (expandBlocks data below)), ?_⟩
  rw [expand, hblocks, expandBlocks_append, textLines_joinLines_append hlines, expandBlocks_append,
    expandBlocks_line, List.append_assoc, List.singleton_append]

/-- The first line that begins with the marker is the marked line of the template. -/
theorem Opens.find?_textLines :
    (textLines (joinLines (t.expand data))).find? (opensWith marker) = some (fill data pieces) := by
  obtain ⟨rest, hlines⟩ := h.textLines_expand hdata
  have hnone : (expandBlocks data (t.above pieces)).find? (opensWith marker) = none := by
    have hunmarked := h.above_unmarked data
    rw [List.find?_eq_none]
    exact List.filter_eq_nil_iff.mp hunmarked
  have hself : opensWith marker (fill data pieces) = true := by
    rw [opensWith_fill data (by rw [decidesLine, h.marked, Bool.true_or, Bool.true_or]), h.marked]
  rw [hlines, List.find?_append, hnone, Option.none_or, List.find?_cons, hself]

end Opens

end CrudStack.Template
