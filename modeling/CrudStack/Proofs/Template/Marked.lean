/-
# `CrudStack.Proofs.Template.Marked` — finding the lines that begin with a marker

A statement about a generated file is mostly about a few of its lines, recognised by how they begin.
Whether a filled line begins with a marker can be read off the template as long as the literal text
before its first slot settles the question (`decidesLine`); then no value, however odd, makes a line
begin with the marker that does not do so in the template.

Main statement: if the lines of a template settle a marker, the marked lines of an expansion are the
expansion of the marked lines (`marked_expandBlocks`).  Both sides of the hypothesis are
computations, so a template of many lines costs no more than one of two.
-/
import CrudStack.Proofs.Template.Expansion

namespace CrudStack.Template

/-- The bytes of a text.  Beginnings are compared by them: to look at the first bytes of a long
literal costs little, to cut it into characters much. -/
def bytes (s : String) : List UInt8 := s.toByteArray.data.toList

/-- Whether a line begins with a marker. -/
def opensWith (marker line : String) : Bool := (bytes marker).isPrefixOf (bytes line)

/-- The lines that begin with a marker. -/
def marked (marker : String) (lines : List String) : List String :=
  lines.filter (opensWith marker)

/-! ## The literal beginning of a line -/

@[simp] theorem bytes_append (s t : String) : bytes (s ++ t) = bytes s ++ bytes t := by
  simp [bytes, String.toByteArray_append]

/-- The bytes of a line before its first slot. -/
def leading : List Piece → List UInt8
  | .text s :: rest => bytes s ++ leading rest
  | _ => []

/-- A line without slots. -/
def isLiteral (pieces : List Piece) : Bool :=
  pieces.all fun
    | .text _ => true
    | .slot _ => false

/-- Whether the literal beginning of a line has the marker. -/
def marksLine (marker : String) (pieces : List Piece) : Bool :=
  (bytes marker).isPrefixOf (leading pieces)

/-- Whether the literal beginning of a line settles if the line begins with the marker: it has the
marker, it departs from it, or it is the whole line. -/
def decidesLine (marker : String) (pieces : List Piece) : Bool :=
  marksLine marker pieces || !(leading pieces).isPrefixOf (bytes marker) || isLiteral pieces

theorem bytes_fill (data : Document) : ∀ pieces : List Piece,
    ∃ rest, bytes (fill data pieces) = leading pieces ++ rest ∧
      (isLiteral pieces = true → rest = [])
  | [] => ⟨[], rfl, fun _ => rfl⟩
  | .text s :: pieces => by
      obtain ⟨rest, hrest, hliteral⟩ := bytes_fill data pieces
      refine ⟨rest, ?_, ?_⟩
      · rw [fill, bytes_append, hrest, leading, List.append_assoc]
      · intro h
        exact hliteral (by simpa [isLiteral] using h)
  | .slot name :: pieces => by
      refine ⟨bytes (fill data (.slot name :: pieces)), rfl, ?_⟩
      intro h
      simp [isLiteral] at h

theorem opensWith_fill {marker : String} {pieces : List Piece} (data : Document)
    (h : decidesLine marker pieces = true) :
    opensWith marker (fill data pieces) = marksLine marker pieces := by
  obtain ⟨rest, hrest, hliteral⟩ := bytes_fill data pieces
  rw [opensWith, hrest, marksLine, Bool.eq_iff_iff, List.isPrefixOf_iff_prefix,
    List.isPrefixOf_iff_prefix]
  refine ⟨fun hp => ?_, fun hp => hp.trans (List.prefix_append _ _)⟩
  simp only [decidesLine, marksLine, Bool.or_eq_true, Bool.not_eq_true', ← Bool.not_eq_true,
    List.isPrefixOf_iff_prefix] at h
  rcases h with (hmarks | hdeparts) | hclosed
  · exact hmarks
  · exact (List.prefix_or_prefix_of_prefix hp (List.prefix_append _ _)).resolve_right hdeparts
  · rwa [hliteral hclosed, List.append_nil] at hp

/-! ## Selecting lines of a template -/

mutual

/-- A block with its marked lines only; nothing if it has none. -/
def selectBlock (marker : String) : Block → List Block
  | .line pieces => if marksLine marker pieces then [.line pieces] else []
  | .each name body =>
    match selectBlocks marker body with
    | [] => []
    | kept => [.each name kept]
  | .cond name yes no =>
    match selectBlocks marker yes, selectBlocks marker no with
    | [], [] => []
    | keptYes, keptNo => [.cond name keptYes keptNo]

/-- Several blocks with their marked lines only. -/
def selectBlocks (marker : String) : List Block → List Block
  | [] => []
  | block :: rest => selectBlock marker block ++ selectBlocks marker rest

end

mutual

/-- The marker is settled in every line of a block. -/
def decidesBlock (marker : String) : Block → Bool
  | .line pieces => decidesLine marker pieces
  | .each _ body => decidesBlocks marker body
  | .cond _ yes no => decidesBlocks marker yes && decidesBlocks marker no

/-- The marker is settled in every line of several blocks. -/
def decidesBlocks (marker : String) : List Block → Bool
  | [] => true
  | block :: rest => decidesBlock marker block && decidesBlocks marker rest

end

theorem expandBlocks_append (data : Document) (as bs : List Block) :
    expandBlocks data (as ++ bs) = expandBlocks data as ++ expandBlocks data bs := by
  induction as with
  | nil => rfl
  | cons a as ih => rw [List.cons_append, expandBlocks, ih, expandBlocks, List.append_assoc]

theorem expandBlocks_singleton (data : Document) (block : Block) :
    expandBlocks data [block] = expandBlock data block := by
  rw [expandBlocks, expandBlocks, List.append_nil]

/-- What is left of a template if its only marked line stands outside of all blocks. -/
theorem expandBlocks_line (data : Document) (pieces : List Piece) :
    expandBlocks data [.line pieces] = [fill data pieces] := by
  rw [expandBlocks_singleton, expandBlock]

/-- What is left of a template if its only marked line is repeated. -/
theorem expandBlocks_each_line (data : Document) (name : String) (pieces : List Piece) :
    expandBlocks data [.each name [.line pieces]] =
      (elementsAt data name).map fun item => fill item pieces := by
  rw [expandBlocks_singleton, expandBlock]
  simp only [expandBlocks_line]
  exact List.map_eq_flatMap.symm

/-- Lines side by side. -/
theorem expandBlocks_lines {A : Type} (data : Document) (pieces : A → List Piece) (as : List A) :
    expandBlocks data (as.map fun a => .line (pieces a)) =
      as.map fun a => fill data (pieces a) := by
  induction as with
  | nil => rfl
  | cons a rest ih => rw [List.map_cons, expandBlocks, ih, expandBlock]; rfl

/-- The text of a line without slots. -/
theorem fill_text (data : Document) (line : String) : fill data [.text line] = line :=
  String.append_empty

theorem expandBlocks_texts (data : Document) (lines : List String) :
    expandBlocks data (lines.map fun line => .line [.text line]) = lines := by
  rw [expandBlocks_lines]
  simp only [fill_text, List.map_id']

mutual

theorem marked_expandBlock (marker : String) : ∀ (block : Block) (data : Document),
    decidesBlock marker block = true →
      marked marker (expandBlock data block) = expandBlocks data (selectBlock marker block)
  | .line pieces, data, h => by
      have hopens : opensWith marker (fill data pieces) = marksLine marker pieces :=
        opensWith_fill data h
      cases hmarks : marksLine marker pieces <;>
        simp [expandBlock, expandBlocks, selectBlock, marked, hopens, hmarks]
  | .each name body, data, h => by
      have ih : ∀ item, marked marker (expandBlocks item body) =
          expandBlocks item (selectBlocks marker body) :=
        fun item => marked_expandBlocks marker body item h
      have hitems : marked marker (expandBlock data (.each name body)) =
          (elementsAt data name).flatMap fun item =>
            expandBlocks item (selectBlocks marker body) := by
        simp only [expandBlock, marked, List.filter_flatMap] at ih ⊢
        simp only [ih]
      rw [hitems, selectBlock]
      split
      · next hnone => simp [hnone, expandBlocks]
      · rw [expandBlocks_singleton, expandBlock]
  | .cond name yes no, data, h => by
      simp only [decidesBlock, Bool.and_eq_true] at h
      have hkept : marked marker (expandBlock data (.cond name yes no)) =
          expandBlock data (.cond name (selectBlocks marker yes) (selectBlocks marker no)) := by
        rw [expandBlock, expandBlock]
        split
        · exact marked_expandBlocks marker yes data h.1
        · exact marked_expandBlocks marker no data h.2
      rw [hkept, selectBlock]
      split
      · next hyes hno => simp [hyes, hno, expandBlock, expandBlocks]
      · rw [expandBlocks_singleton]

theorem marked_expandBlocks (marker : String) : ∀ (blocks : List Block) (data : Document),
    decidesBlocks marker blocks = true →
      marked marker (expandBlocks data blocks) = expandBlocks data (selectBlocks marker blocks)
  | [], _, _ => rfl
  | block :: rest, data, h => by
      simp only [decidesBlocks, Bool.and_eq_true] at h
      rw [expandBlocks, selectBlocks, expandBlocks_append,
        ← marked_expandBlock marker block data h.1,
        ← marked_expandBlocks marker rest data h.2]
      exact List.filter_append ..

end

/-! ## Marked lines of a template

A question about a concrete template is settled by comparing the blocks that are left, so blocks
have to be comparable. -/

mutual

/-- Blocks are the same if their parts are. -/
def decEqBlock : (a b : Block) → Decidable (a = b)
  | .line p, .line q => decidable_of_iff (p = q) (by simp)
  | .each n b, .each m c =>
    match decEq n m, decEqBlocks b c with
    | isTrue hn, isTrue hb => isTrue (by rw [hn, hb])
    | isFalse hn, _ => isFalse fun e => hn (Block.each.inj e).1
    | _, isFalse hb => isFalse fun e => hb (Block.each.inj e).2
  | .cond n y z, .cond m u v =>
    match decEq n m, decEqBlocks y u, decEqBlocks z v with
    | isTrue hn, isTrue hy, isTrue hz => isTrue (by rw [hn, hy, hz])
    | isFalse hn, _, _ => isFalse fun e => hn (Block.cond.inj e).1
    | _, isFalse hy, _ => isFalse fun e => hy (Block.cond.inj e).2.1
    | _, _, isFalse hz => isFalse fun e => hz (Block.cond.inj e).2.2
  | .line _, .each .. | .line _, .cond .. | .each .., .line _ | .each .., .cond ..
  | .cond .., .line _ | .cond .., .each .. => isFalse nofun

/-- Lists of blocks are the same if their blocks are. -/
def decEqBlocks : (as bs : List Block) → Decidable (as = bs)
  | [], [] => isTrue rfl
  | a :: as, b :: bs =>
    match decEqBlock a b, decEqBlocks as bs with
    | isTrue h, isTrue hs => isTrue (by rw [h, hs])
    | isFalse h, _ => isFalse fun e => h (List.cons.inj e).1
    | _, isFalse hs => isFalse fun e => hs (List.cons.inj e).2
  | [], _ :: _ | _ :: _, [] => isFalse nofun

end

instance : DecidableEq Block := decEqBlock

/-- The marker is settled in the whole template, and `found` are its marked lines. -/
def Picks (marker : String) (t : Template) (found : List Block) : Prop :=
  decidesBlocks marker t.blocks = true ∧ selectBlocks marker t.blocks = found

instance (marker : String) (t : Template) (found : List Block) :
    Decidable (Picks marker t found) :=
  inferInstanceAs (Decidable (_ ∧ _))

theorem marked_expand {marker : String} {t : Template} {found : List Block}
    (h : Picks marker t found) (data : Document) :
    marked marker (t.expand data) = expandBlocks data found := by
  rw [expand, marked_expandBlocks marker t.blocks data h.1, h.2]

end CrudStack.Template
