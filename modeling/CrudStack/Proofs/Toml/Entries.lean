/-
# `CrudStack.Proofs.Toml.Entries` — what a statement does to a table

A pair and a section are added in the same way: the first part of the path finds an item, what is
left of the path tells what becomes of this item alone (`Addition.grown`), and the item takes its
place among the others, which stay as they are (`Addition.add_cons`).  The two differ in what they
may go through and in what they put at the end of the path.
-/
import CrudStack.Proofs.Lookup
import CrudStack.Toml.Assembly

namespace CrudStack.Toml

open Lookup

/-! ## Putting an item at a key -/

/-- Puts an item at a key: in the place of the one that is there, or behind all others. -/
def setItem (key : String) (item : Item) (es : Entries) : Entries :=
  if (es.lookup key).isSome then replaceItem key item es else es ++ [(key, item)]

/-- Puts an item at a key, behind all others. -/
def moveItem (key : String) (item : Item) (es : Entries) : Entries :=
  removeItem key es ++ [(key, item)]

/-- An item was put at a key, and all others are as they were. -/
structure Puts (key : String) (item : Item) (es es' : Entries) : Prop where
  lookup : ∀ k, es'.lookup k = if k = key then some item else es.lookup k
  mem : ∀ e ∈ es', e = (key, item) ∨ e ∈ es
  nodup : (es.map (·.1)).Nodup → (es'.map (·.1)).Nodup

section Puts

variable {key k : String} {item : Item} {es : Entries}

theorem map_fst_replaceItem : (replaceItem key item es).map (·.1) = es.map (·.1) := by
  induction es with
  | nil => rfl
  | cons e es ih =>
      rw [replaceItem]
      split
      · rfl
      · rw [List.map_cons, List.map_cons, ih]

theorem lookup_replaceItem (h : (es.lookup key).isSome) :
    (replaceItem key item es).lookup k = if k = key then some item else es.lookup k := by
  induction es with
  | nil => cases h
  | cons e es ih =>
      rw [replaceItem, lookup_cons]
      split
      · next heq =>
          subst heq
          rw [lookup_cons]
          split <;> rfl
      · next hne =>
          rw [lookup_cons, if_neg (Ne.symm hne)] at h
          rw [lookup_cons, ih h]
          by_cases hk : k = e.1
          · rw [if_pos hk, if_pos hk, if_neg fun hkey => hne (hk.symm.trans hkey)]
          · rw [if_neg hk, if_neg hk]

theorem mem_replaceItem {e : String × Item} (h : e ∈ replaceItem key item es) :
    e = (key, item) ∨ e ∈ es := by
  induction es with
  | nil => cases h
  | cons first rest ih =>
      rw [replaceItem] at h
      split at h
      · next heq =>
          obtain rfl | h := List.mem_cons.mp h
          · exact .inl (by rw [heq])
          · exact .inr (List.mem_cons_of_mem _ h)
      · obtain rfl | h := List.mem_cons.mp h
        · exact .inr List.mem_cons_self
        · exact (ih h).imp_right (List.mem_cons_of_mem _)

theorem lookup_removeItem :
    (removeItem key es).lookup k = if k = key then none else es.lookup k := by
  rw [removeItem]
  induction es with
  | nil => simp
  | cons e es ih =>
      rw [List.filter_cons, lookup_cons]
      by_cases he : e.1 = key
      · rw [if_neg (by simpa using he), ih]
        split
        · rfl
        · next hk => rw [if_neg fun h => hk (h.trans he)]
      · rw [if_pos (by simpa using he), lookup_cons, ih]
        by_cases hk : k = key
        · rw [if_pos hk, if_pos hk, if_neg fun h => he (h.symm.trans hk)]
        · rw [if_neg hk, if_neg hk]

theorem nodup_concat (h : (es.map (·.1)).Nodup) (hkey : key ∉ es.map (·.1)) :
    ((es ++ [(key, item)]).map (·.1)).Nodup := by
  rw [List.map_append]
  refine List.nodup_append.mpr ⟨h, List.nodup_singleton _, fun k hk k' hk' heq => hkey ?_⟩
  have hlast : k' = key := List.mem_singleton.mp hk'
  rw [← hlast, ← heq]
  exact hk

theorem puts_set : Puts key item es (setItem key item es) := by
  unfold setItem
  split
  · next hsome =>
      exact ⟨fun k => lookup_replaceItem hsome, fun e he => mem_replaceItem he,
        fun h => by rw [map_fst_replaceItem]; exact h⟩
  · next hnone =>
      have habsent : es.lookup key = none := Option.not_isSome_iff_eq_none.mp hnone
      refine ⟨fun k => ?_, fun e he => ?_, fun h => nodup_concat h (lookup_eq_none.mp habsent)⟩
      · rw [lookup_append, lookup_cons]
        by_cases hk : k = key
        · rw [if_pos hk, if_pos hk, hk, habsent]
          rfl
        · rw [if_neg hk, if_neg hk]
          exact Option.or_none
      · obtain he | he := List.mem_append.mp he
        · exact .inr he
        · exact .inl (List.mem_singleton.mp he)

theorem puts_move : Puts key item es (moveItem key item es) := by
  refine ⟨fun k => ?_, fun e he => ?_, fun h => nodup_concat ?_ ?_⟩
  · rw [moveItem, lookup_append, lookup_removeItem, lookup_cons]
    by_cases hk : k = key
    · rw [if_pos hk, if_pos hk, if_pos hk]
      rfl
    · rw [if_neg hk, if_neg hk, if_neg hk]
      exact Option.or_none
  · obtain he | he := List.mem_append.mp he
    · exact .inr (List.mem_of_mem_filter he)
    · exact .inl (List.mem_singleton.mp he)
  · exact h.sublist (List.filter_sublist.map _)
  · rw [← lookup_eq_none, lookup_removeItem, if_pos rfl]

end Puts

/-! ## Additions -/

/-- What a statement puts at the end of its path: a value, or the table of a section. -/
inductive Addition where
  | value (value : Document)
  | header (isElement : Bool) (pairs : List (List String × Document))

namespace Addition

/-- Adds something below a path.  How a table was reached matters only to values. -/
def add (inside dotted : Bool) : Addition → List String → Entries → Option Entries
  | .value v, path, es => addPair v inside dotted path es
  | .header isElement pairs, path, es => addSection es ⟨isElement, path, pairs⟩

/-- A value may not go into a table that was reached through a part of its key, unless dotted keys
brought the table about. -/
def isRefused (inside dotted : Bool) : Addition → List String → Bool
  | .value _, [] => inside && !dotted
  | _, _ => false

/-- What the end of a path becomes. -/
def placed : Addition → Option Item → Option Item
  | .value v, none => some (.value v)
  | .value _, some _ => none
  | .header false pairs, none => (addPairs pairs []).map (.table false false)
  | .header false pairs, some (.table true false sub) =>
    (addPairs pairs sub).map (.table false false)
  | .header false _, some _ => none
  | .header true pairs, none => (addPairs pairs []).map fun sub => .tables [sub]
  | .header true pairs, some (.tables elements) =>
    (addPairs pairs []).map fun sub => .tables (elements ++ [sub])
  | .header true _, some _ => none

/-- Dotted keys bring about tables of their own. -/
def isDotted : Addition → Bool
  | .value _ => true
  | .header _ _ => false

/-- What an item on the way becomes. -/
def passed (a : Addition) (path : List String) : Option Item → Option Item
  | none => (a.add true true path []).map (.table true a.isDotted)
  | some (.table implicit dotted sub) =>
    if a.isDotted && !implicit then none
    else (a.add true dotted path sub).map (.table implicit dotted)
  | some (.tables elements) =>
    match elements.getLast? with
    | none => none
    | some last => (a.add true false path last).map fun last =>
        .tables (elements.dropLast ++ [last])
  | some (.value _) => none

/-- What an item becomes that is found where this path begins. -/
def grown (a : Addition) : List String → Option Item → Option Item
  | [], old => a.placed old
  | part :: path, old => a.passed (part :: path) old

/-- Where the item is put: a table that gets its header goes behind all others. -/
def settle : Addition → List String → String → Item → Entries → Entries
  | .header false _, [] => moveItem
  | _, _ => setItem

theorem puts_settle (a : Addition) (path : List String) (key : String) (item : Item)
    (es : Entries) : Puts key item es (a.settle path key item es) := by
  unfold settle
  split
  · exact puts_move
  · exact puts_set

section Cons

variable {key part : String} {path : List String} {es : Entries}

theorem removeItem_of_absent (h : es.lookup key = none) : removeItem key es = es := by
  refine List.filter_eq_self.mpr fun e he => ?_
  have hne : e.1 ≠ key := fun heq => lookup_eq_none.mp h (heq ▸ List.mem_map_of_mem he)
  simpa using hne

theorem setItem_of_some {item old : Item} (h : es.lookup key = some old) :
    setItem key item es = replaceItem key item es := by
  rw [setItem, h]
  rfl

theorem setItem_of_none {item : Item} (h : es.lookup key = none) :
    setItem key item es = es ++ [(key, item)] := by
  rw [setItem, h]
  rfl

theorem moveItem_of_none {item : Item} (h : es.lookup key = none) :
    moveItem key item es = es ++ [(key, item)] := by
  rw [moveItem, removeItem_of_absent h]

theorem openTable_eq (pairs : List (List String × Document)) :
    openTable key pairs es =
      ((Addition.header false pairs).placed (es.lookup key)).map fun item =>
        moveItem key item es := by
  rw [openTable]
  cases hold : es.lookup key with
  | none => cases h : addPairs pairs [] <;> simp [placed, h, moveItem_of_none hold]
  | some old =>
      rcases old with v | ⟨implicit, dotted, sub⟩ | elements
      · rfl
      · cases implicit <;> cases dotted <;> try rfl
        cases h : addPairs pairs sub <;> simp [placed, h, moveItem]
      · rfl

theorem openElement_eq (pairs : List (List String × Document)) :
    openElement key pairs es =
      ((Addition.header true pairs).placed (es.lookup key)).map fun item =>
        setItem key item es := by
  rw [openElement]
  cases hold : es.lookup key with
  | none => cases h : addPairs pairs [] <;> simp [placed, h, setItem_of_none hold]
  | some old =>
      rcases old with v | ⟨implicit, dotted, sub⟩ | elements
      · rfl
      · rfl
      · cases h : addPairs pairs [] <;> simp [placed, h, setItem_of_some hold]

theorem addSection_eq_updateAt (isElement : Bool) (pairs : List (List String × Document))
    (last : String) (h : path.getLast? = some last) :
    addSection es ⟨isElement, path, pairs⟩ =
      updateAt ((if isElement then openElement else openTable) last pairs) path.dropLast es := by
  rw [addSection]
  simp only [h]

theorem addSection_cons (isElement : Bool) (pairs : List (List String × Document)) :
    addSection es ⟨isElement, key :: part :: path, pairs⟩ =
      ((Addition.header isElement pairs).passed (part :: path) (es.lookup key)).map fun item =>
        setItem key item es := by
  obtain ⟨last, hlast⟩ : ∃ last, (part :: path).getLast? = some last :=
    ⟨_, List.getLast?_eq_getLast_of_ne_nil (by simp)⟩
  have hsub : ∀ sub, updateAt ((if isElement then openElement else openTable) last pairs)
      (part :: path).dropLast sub = addSection sub ⟨isElement, part :: path, pairs⟩ :=
    fun sub => (addSection_eq_updateAt isElement pairs last hlast).symm
  rw [addSection_eq_updateAt isElement pairs last (by simpa using hlast), List.dropLast_cons_cons,
    updateAt]
  simp only [hsub]
  cases hold : es.lookup key with
  | none =>
      cases h : addSection [] ⟨isElement, part :: path, pairs⟩ <;>
        simp [passed, add, isDotted, h, setItem_of_none hold]
  | some old =>
      rcases old with v | ⟨implicit, dotted, sub⟩ | elements
      · rfl
      · cases h : addSection sub ⟨isElement, part :: path, pairs⟩ <;>
          simp [passed, add, isDotted, h, setItem_of_some hold]
      · cases hlast : elements.getLast? with
        | none => simp [passed, hlast]
        | some last =>
            cases h : addSection last ⟨isElement, part :: path, pairs⟩ <;>
              simp [passed, add, hlast, h, setItem_of_some hold]

theorem addPair_last (v : Document) (inside dotted : Bool) :
    addPair v inside dotted [key] es =
      if inside && !dotted then none
      else ((Addition.value v).placed (es.lookup key)).map fun item => setItem key item es := by
  rw [addPair, addValue]
  split
  · rfl
  · cases hold : es.lookup key with
    | none => simp [placed, setItem_of_none hold]
    | some old => simp [placed]

theorem addPair_cons (v : Document) (inside dotted : Bool) :
    addPair v inside dotted (key :: part :: path) es =
      ((Addition.value v).passed (part :: path) (es.lookup key)).map fun item =>
        setItem key item es := by
  rw [addPair]
  · cases hold : es.lookup key with
    | none =>
        cases h : addPair v true true (part :: path) [] <;>
          simp [passed, add, isDotted, h, setItem_of_none hold]
    | some old =>
        rcases old with w | ⟨implicit, dotted', sub⟩ | elements
        · rfl
        · cases implicit
          · rfl
          · cases h : addPair v true dotted' (part :: path) sub <;>
              simp [passed, add, isDotted, h, setItem_of_some hold]
        · cases hlast : elements.getLast? with
          | none => simp [passed, hlast]
          | some last =>
              cases h : addPair v true false (part :: path) last <;>
                simp [passed, add, hlast, h, setItem_of_some hold]
  · exact List.cons_ne_nil part path

/-- A statement changes the item at the first part of its path, and nothing else. -/
theorem add_cons (a : Addition) (inside dotted : Bool) (key : String) (path : List String)
    (es : Entries) :
    a.add inside dotted (key :: path) es =
      if a.isRefused inside dotted path then none
      else (a.grown path (es.lookup key)).map fun item => a.settle path key item es := by
  cases a with
  | value v =>
      cases path with
      | nil => exact addPair_last v inside dotted
      | cons part path => exact addPair_cons v inside dotted
  | header isElement pairs =>
      cases path with
      | nil =>
          cases isElement
          · exact openTable_eq pairs
          · exact openElement_eq pairs
      | cons part path =>
          cases isElement
          · exact addSection_cons false pairs
          · exact addSection_cons true pairs

theorem add_nil (a : Addition) (inside dotted : Bool) (es : Entries) :
    a.add inside dotted [] es = none := by
  cases a with
  | value v => rfl
  | header isElement pairs => rfl

end Cons

end Addition

end CrudStack.Toml
