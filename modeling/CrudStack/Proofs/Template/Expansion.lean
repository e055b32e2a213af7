/-
# `CrudStack.Proofs.Template.Expansion` — rendering is filling in, line by line

`expandBlocks` says what a template yields without any mention of positions or faults: the lines of
its blocks in order, a repetition once per element of a list, a condition by its flag, and every
slot replaced by its value, which for a text is the text itself (`shown`).  `SuppliesAll` says that
the data has whatever the template asks of it, lists and flags included.

The expansion looks up, inserts and decides by itself; that rendering does the same is what is
proved about each of its parts.

Main statement: data that supplies a template is rendered, and to nothing but the lines of the
expansion (`renderBlocks_eq_ok`, `render_eq_ok`).  It holds from every line on, because positions
occur in faults alone.
-/
import CrudStack.Template

namespace CrudStack.Template

/-! ## Values -/

/-- What a table has under a name; the last entry if there are several. -/
def entryAt (data : Document) (name : String) : Option Document :=
  match data with
  | .table entries => ((entries.filter (·.1 = name)).getLast?).map (·.2)
  | _ => none

mutual

/-- The text that stands for a value: a text is itself, every character of it, and a number is its
digits. -/
def shown : Document → String
  | .text s => s
  | .integer i => toString i
  | .double x => x.scientific
  | .bool true => "true"
  | .bool false => "false"
  | .null => ""
  | .list items => "[" ++ ", ".intercalate (shownItems items) ++ "]"
  | .table _ => "[object]"

/-- The texts that stand for several values. -/
def shownItems : List Document → List String
  | [] => []
  | item :: rest => shown item :: shownItems rest

end

/-! ## Expansion -/

/-- The text of a slot; none if the data does not have the name. -/
def slotText (data : Document) (name : String) : String :=
  if name = selfName then shown data
  else
    match entryAt data name with
    | some value => shown value
    | none => ""

/-- A line with its slots filled. -/
def fill (data : Document) : List Piece → String
  | [] => ""
  | .text s :: rest => s ++ fill data rest
  | .slot name :: rest => slotText data name ++ fill data rest

/-- What a repetition runs over: the elements of a list. -/
def elementsAt (data : Document) (name : String) : List Document :=
  match entryAt data name with
  | some (.list items) => items
  | _ => []

/-- Whether the first part of a condition is the one that is kept: the flag says so. -/
def holdsAt (data : Document) (name : String) : Bool :=
  match entryAt data name with
  | some (.bool flag) => flag
  | _ => false

mutual

/-- The lines that a block yields. -/
def expandBlock (data : Document) : Block → List String
  | .line pieces => [fill data pieces]
  | .each name body => (elementsAt data name).flatMap fun item => expandBlocks item body
  | .cond name yes no => if holdsAt data name then expandBlocks data yes else expandBlocks data no

/-- The lines that several blocks yield. -/
def expandBlocks (data : Document) : List Block → List String
  | [] => []
  | block :: rest => expandBlock data block ++ expandBlocks data rest

end

/-- The lines that a template yields. -/
def expand (t : Template) (data : Document) : List String := expandBlocks data t.blocks

/-! ## What a template asks of its data -/

/-- A slot has its value. -/
def SuppliesPiece (data : Document) : Piece → Prop
  | .text _ => True
  | .slot name => name = selfName ∨ ∃ value, entryAt data name = some value

mutual

/-- A block has all its values: a repetition its list, a condition its flag.  Of a condition only
the part that is kept counts. -/
def Supplies (data : Document) : Block → Prop
  | .line pieces => ∀ p ∈ pieces, SuppliesPiece data p
  | .each name body =>
    (∃ items, entryAt data name = some (.list items)) ∧
      ∀ item ∈ elementsAt data name, SuppliesAll item body
  | .cond name yes no =>
    (∃ flag, entryAt data name = some (.bool flag)) ∧
      if holdsAt data name then SuppliesAll data yes else SuppliesAll data no

/-- Several blocks have all their values. -/
def SuppliesAll (data : Document) : List Block → Prop
  | [] => True
  | block :: rest => Supplies data block ∧ SuppliesAll data rest

end

/-! ## Lines -/

@[simp] theorem joinLines_nil : joinLines [] = "" := rfl

@[simp] theorem joinLines_cons (line : String) (lines : List String) :
    joinLines (line :: lines) = line ++ "\n" ++ joinLines lines := by
  simp [joinLines]

@[simp] theorem joinLines_append (as bs : List String) :
    joinLines (as ++ bs) = joinLines as ++ joinLines bs := by
  simp [joinLines, String.join_append]

theorem join_map_joinLines {α : Type} (f : α → List String) (xs : List α) :
    String.join (xs.map fun x => joinLines (f x)) = joinLines (xs.flatMap f) := by
  induction xs with
  | nil => rfl
  | cons x xs ih => simp [ih]

theorem mapM_eq_ok_map {ε α β : Type} {f : α → Except ε β} {g : α → β} :
    ∀ {xs : List α}, (∀ x ∈ xs, f x = .ok (g x)) → xs.mapM f = .ok (xs.map g)
  | [], _ => rfl
  | x :: xs, h => by
      have hx : f x = .ok (g x) := h x List.mem_cons_self
      have hxs : xs.mapM f = .ok (xs.map g) :=
        mapM_eq_ok_map fun y hy => h y (List.mem_cons_of_mem _ hy)
      rw [List.mapM_cons, hx, hxs]
      rfl

/-! ## The parts of a rendering -/

theorem lookup_eq_find? (entries : List (String × Document)) (name : String) :
    entries.lookup name = (entries.find? (·.1 = name)).map (·.2) := by
  induction entries with
  | nil => rfl
  | cons e rest ih =>
      obtain ⟨key, value⟩ := e
      by_cases h : key = name
      · simp [h]
      · have hne : (name == key) = false := by simpa using Ne.symm h
        simp [List.lookup_cons, hne, h, ih]

theorem entryAt_eq_some_iff {data value : Document} {name : String} :
    entryAt data name = some value ↔ valueOf data name = .ok value := by
  cases data with
  | table entries =>
      have hlast : entryAt (.table entries) name = entries.reverse.lookup name := by
        rw [entryAt, lookup_eq_find?, ← List.head?_filter, List.filter_reverse, List.head?_reverse]
      rw [hlast, valueOf]
      cases entries.reverse.lookup name <;> simp
  | _ => simp [entryAt, valueOf]

theorem entryAt_congr {data data' : Document} {name : String}
    (h : valueOf data name = valueOf data' name) : entryAt data name = entryAt data' name :=
  Option.ext fun value => by rw [entryAt_eq_some_iff, entryAt_eq_some_iff, h]

mutual

/-- A value is inserted as the text that stands for it. -/
theorem inserted_eq_shown : ∀ value : Document, inserted value = shown value
  | .null => rfl
  | .bool true => rfl
  | .bool false => rfl
  | .integer _ => rfl
  | .double _ => rfl
  | .text _ => rfl
  | .table _ => rfl
  | .list items => by
      rw [inserted, shown, insertedItems_eq_shown true items]
      simp

/-- Elements that do not come first have a comma before them. -/
theorem insertedItems_eq_shown : ∀ (first : Bool) (items : List Document),
    insertedItems first items =
      (if first || items.isEmpty then "" else ", ") ++ ", ".intercalate (shownItems items)
  | _, [] => by simp [insertedItems, shownItems]
  | first, [item] => by
      simp [insertedItems, shownItems, inserted_eq_shown item]
  | first, item :: next :: more => by
      rw [insertedItems, inserted_eq_shown item, insertedItems_eq_shown false (next :: more)]
      simp [shownItems, String.append_assoc]

end

theorem slotOf_eq_ok {data : Document} {name : String} (line column : Nat)
    (h : SuppliesPiece data (.slot name)) :
    slotOf data line column name = .ok (slotText data name) := by
  unfold slotOf slotText
  by_cases hself : name = selfName
  · rw [if_pos hself, if_pos hself, ← inserted_eq_shown]
    rfl
  · obtain ⟨value, hvalue⟩ := h.resolve_left hself
    rw [if_neg hself, if_neg hself, entryAt_eq_some_iff.mp hvalue, hvalue]
    simp only [← inserted_eq_shown]
    rfl

theorem renderPieces_eq_ok (data : Document) (line : Nat) :
    ∀ (pieces : List Piece) (column : Nat), (∀ p ∈ pieces, SuppliesPiece data p) →
      renderPieces data line column pieces = .ok (fill data pieces)
  | [], _, _ => rfl
  | .text s :: rest, column, h => by
      have ih := renderPieces_eq_ok data line rest (column + s.length)
        fun p hp => h p (List.mem_cons_of_mem _ hp)
      simp only [renderPieces, ih, fill]
      rfl
  | .slot name :: rest, column, h => by
      have ih := renderPieces_eq_ok data line rest (column + (tag name).length)
        fun p hp => h p (List.mem_cons_of_mem _ hp)
      simp only [renderPieces, slotOf_eq_ok line column (h _ List.mem_cons_self), ih, fill]
      rfl

theorem elementsOf_eq_ok {data : Document} {name : String} {items : List Document}
    (line column : Nat) (h : entryAt data name = some (.list items)) :
    elementsOf data line column name = .ok (elementsAt data name) := by
  simp only [elementsOf, elementsAt, entryAt_eq_some_iff.mp h, h, elements?]

theorem conditionOf_eq_ok {data : Document} {name : String} {flag : Bool} (line column : Nat)
    (h : entryAt data name = some (.bool flag)) :
    conditionOf data line column name = .ok (holdsAt data name) := by
  simp only [conditionOf, holdsAt, entryAt_eq_some_iff.mp h, h, isSomething]

/-! ## Rendering

By the recursion of the blocks.  The line at which a block starts is arbitrary throughout: it moves
with every step, and nothing that is rendered depends on it. -/

mutual

theorem renderBlock_eq_ok : ∀ (block : Block) (data : Document) (line : Nat),
    Supplies data block → renderBlock data line block = .ok (joinLines (expandBlock data block))
  | .line pieces, data, line, h => by
      rw [renderBlock, renderPieces_eq_ok data line pieces 1 h, expandBlock]
      simp only [joinLines_cons, joinLines_nil, String.append_empty]
      rfl
  | .each name body, data, line, h => by
      obtain ⟨⟨items, hitems⟩, hbody⟩ := h
      have hrun := mapM_eq_ok_map (f := fun item => renderBlocks item (line + 1) body)
        fun item hitem => renderBlocks_eq_ok body item (line + 1) (hbody item hitem)
      rw [renderBlock, elementsOf_eq_ok line 1 hitems, expandBlock, ← join_map_joinLines]
      show Except.map String.join _ = _
      rw [hrun]
      rfl
  | .cond name yes no, data, line, h => by
      obtain ⟨⟨flag, hentry⟩, hkept⟩ := h
      rw [renderBlock, conditionOf_eq_ok line 1 hentry, expandBlock]
      cases hflag : holdsAt data name with
      | true =>
          rw [hflag] at hkept
          exact renderBlocks_eq_ok yes data _ hkept
      | false =>
          rw [hflag] at hkept
          exact renderBlocks_eq_ok no data _ hkept

theorem renderBlocks_eq_ok : ∀ (blocks : List Block) (data : Document) (line : Nat),
    SuppliesAll data blocks →
      renderBlocks data line blocks = .ok (joinLines (expandBlocks data blocks))
  | [], _, _, _ => rfl
  | block :: rest, data, line, h => by
      rw [renderBlocks, renderBlock_eq_ok block data line h.1,
        renderBlocks_eq_ok rest data _ h.2, expandBlocks, joinLines_append]
      rfl

end

/-- Data that has what a template asks for is rendered, to the lines of the expansion. -/
theorem render_eq_ok {t : Template} {data : Document} (h : SuppliesAll data t.blocks) :
    t.render data = .ok (joinLines (t.expand data)) :=
  renderBlocks_eq_ok t.blocks data 1 h

end CrudStack.Template
