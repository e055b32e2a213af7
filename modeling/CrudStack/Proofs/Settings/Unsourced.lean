/-
# `CrudStack.Proofs.Settings.Unsourced` — the source of a value only says whom to blame

Which settings a layer has, and what does not fit, does not depend on where its values come from:
without their sources two layers are read alike, and a fault differs in the source that it names
(`ofTree_unsourced`).
-/
import CrudStack.Settings.Load

namespace CrudStack.Settings

/-! ## Without sources -/

namespace Tree

mutual

/-- A value as if it came from a text. -/
def unsourced : Tree → Tree
  | .leaf _ v => .leaf .text v
  | .list _ items => .list .text (itemsUnsourced items)
  | .table _ es => .table .text (entriesUnsourced es)

/-- The elements of a list as if they came from a text. -/
def itemsUnsourced : List Tree → List Tree
  | [] => []
  | t :: ts => t.unsourced :: itemsUnsourced ts

/-- The entries of a table as if they came from a text. -/
def entriesUnsourced : List (String × Tree) → List (String × Tree)
  | [] => []
  | (key, t) :: es => (key, t.unsourced) :: entriesUnsourced es

end

theorem itemsUnsourced_eq_map (ts : List Tree) : itemsUnsourced ts = ts.map unsourced := by
  induction ts with
  | nil => rfl
  | cons t ts ih => rw [itemsUnsourced, List.map_cons, ih]

theorem entriesUnsourced_eq_map (es : List (String × Tree)) :
    entriesUnsourced es = es.map fun e => (e.1, e.2.unsourced) := by
  induction es with
  | nil => rfl
  | cons e es ih => rw [entriesUnsourced, List.map_cons, ih]

theorem entries_unsourced (t : Tree) : t.unsourced.entries = entriesUnsourced t.entries := by
  cases t <;> rfl

theorem lookup_entriesUnsourced (key : String) (es : List (String × Tree)) :
    (entriesUnsourced es).lookup key = (es.lookup key).map unsourced := by
  induction es with
  | nil => rfl
  | cons e es ih =>
      rw [entriesUnsourced, List.lookup_cons, List.lookup_cons, ih]
      split <;> rfl

theorem place_unsourced (key : String) (value : Tree) (es : List (String × Tree)) :
    entriesUnsourced (place key value es) = place key value.unsourced (entriesUnsourced es) := by
  induction es with
  | nil => rfl
  | cons e es ih =>
      rw [place, entriesUnsourced, place]
      split
      · rfl
      · split
        · rfl
        · rw [entriesUnsourced, ih]

mutual

theorem mergeInto_unsourced (old : Tree) :
    ∀ new : Tree, (mergeInto old new).unsourced = mergeInto old.unsourced new.unsourced
  | .leaf _ _ => rfl
  | .list _ _ => rfl
  | .table _ es => by
      rw [mergeInto, unsourced, unsourced, mergeInto, entries_unsourced, mergeEntries_unsourced]

theorem mergeEntries_unsourced (old : List (String × Tree)) :
    ∀ new : List (String × Tree), entriesUnsourced (mergeEntries old new) =
      mergeEntries (entriesUnsourced old) (entriesUnsourced new)
  | [] => rfl
  | (key, value) :: rest => by
      rw [mergeEntries, entriesUnsourced, mergeEntries, mergeEntries_unsourced _ rest,
        place_unsourced, lookup_entriesUnsourced]
      cases old.lookup key with
      | none => rfl
      | some o => simp only [Option.map_some, mergeInto_unsourced o value]

end

mutual

theorem ofDocument_unsourced (source : Source) :
    ∀ d : Document, (ofDocument source d).unsourced = ofDocument .text d
  | .null => rfl
  | .bool _ => rfl
  | .integer _ => rfl
  | .double _ => rfl
  | .text _ => rfl
  | .list ds => by rw [ofDocument, unsourced, ofDocument, ofItems_unsourced source ds]
  | .table es => by
      rw [ofDocument, unsourced, ofDocument, ofEntries_unsourced source es []]
      rfl

theorem ofItems_unsourced (source : Source) :
    ∀ ds : List Document, itemsUnsourced (ofItems source ds) = ofItems .text ds
  | [] => rfl
  | d :: ds => by
      rw [ofItems, itemsUnsourced, ofItems, ofDocument_unsourced source d,
        ofItems_unsourced source ds]

theorem ofEntries_unsourced (source : Source) :
    ∀ (es : List (String × Document)) (placed : List (String × Tree)),
      entriesUnsourced (ofEntries source es placed) = ofEntries .text es (entriesUnsourced placed)
  | [], _ => rfl
  | (key, d) :: es, placed => by
      rw [ofEntries, ofEntries_unsourced source es, place_unsourced,
        ofDocument_unsourced source d, ofEntries]

end

end Tree

/-- A fault that blames nobody in particular. -/
def Fault.unsourced (f : Fault) : Fault := { f with source := .text }

/-! ## Readers -/

/-- A reader makes the same of a value wherever it comes from. -/
def IsImpartial {A : Type} (read : Tree → Except Fault A) : Prop :=
  ∀ t, read t.unsourced = (read t).mapError Fault.unsourced

section Impartial

variable {A B Record : Type}

theorem mapError_bind (x : Except Fault A) (f : A → Except Fault B) (g : Fault → Fault) :
    (x >>= f).mapError g = x.mapError g >>= fun a => (f a).mapError g := by
  cases x <;> rfl

theorem mapError_under (x : Except Fault A) (key : String) :
    (x.mapError (·.under key)).mapError Fault.unsourced =
      (x.mapError Fault.unsourced).mapError (·.under key) := by
  cases x <;> rfl

theorem refuse_unsourced (expected : String) (t : Tree) :
    refuse (A := A) expected t.unsourced = (refuse expected t).mapError Fault.unsourced := by
  cases t <;> rfl

theorem impartial_textOf : IsImpartial textOf := by
  intro t
  rcases t with ⟨source, v⟩ | ⟨source, items⟩ | ⟨source, es⟩
  · cases v <;> rfl
  · rfl
  · rfl

theorem impartial_portOf : IsImpartial portOf := by
  intro t
  have hport : ∀ source leaf i,
      portOfInt .text leaf i = (portOfInt source leaf i).mapError Fault.unsourced := by
    intro source leaf i
    rw [portOfInt, portOfInt]
    split <;> rfl
  rcases t with ⟨source, v⟩ | ⟨source, items⟩ | ⟨source, es⟩
  · cases v with
    | signed i => exact hport ..
    | unsigned n => exact hport ..
    | _ => rfl
  · rfl
  · rfl

theorem impartial_databaseOf : IsImpartial databaseOf := by
  intro t
  have hnamed : ∀ source name,
      databaseNamed .text name = (databaseNamed source name).mapError Fault.unsourced := by
    intro source name
    rw [databaseNamed, databaseNamed]
    split <;> rfl
  rcases t with ⟨source, v⟩ | ⟨source, items⟩ | ⟨source, es⟩
  · cases v with
    | text s => exact hnamed ..
    | _ => rfl
  · rfl
  · cases es with
    | nil => rfl
    | cons e es =>
        rw [Tree.unsourced, Tree.entriesUnsourced, databaseOf, databaseOf, hnamed source]
        cases databaseNamed source e.1 with
        | ok d =>
            show (refuse "unit" e.2.unsourced).mapError _ =
                ((refuse "unit" e.2).mapError _).mapError _
            rw [refuse_unsourced, mapError_under]
        | error f => rfl

/-- What is stored is read impartially. -/
theorem stored_unsourced {read : Tree → Except Fault A} (h : IsImpartial read) (put : A → Record)
    (t : Tree) : (do return put (← read t.unsourced)) =
      (do return put (← read t) : Except Fault Record).mapError Fault.unsourced := by
  rw [h t]
  cases read t <;> rfl

theorem foldlM_unsourced {E : Type} {f g : Record → E → Except Fault Record}
    (h : ∀ r e, g r e = (f r e).mapError Fault.unsourced) (es : List E) (r : Record) :
    es.foldlM g r = (es.foldlM f r).mapError Fault.unsourced := by
  induction es generalizing r with
  | nil => rfl
  | cons e es ih =>
      rw [List.foldlM_cons, List.foldlM_cons, mapError_bind, h]
      exact bind_congr fun r => ih r

theorem impartial_sectionOf {expected : String} {fields : List String}
    {set : Record → String → Tree → Except Fault Record} {defaults : Record}
    (h : ∀ r key, IsImpartial (set r key)) :
    IsImpartial (sectionOf expected fields set defaults) := by
  intro t
  have hset : ∀ r key name t, (set r key t.unsourced).mapError (·.under name) =
      ((set r key t).mapError (·.under name)).mapError Fault.unsourced := fun r key name t => by
    rw [h r key t, mapError_under]
  rcases t with ⟨source, v⟩ | ⟨source, items⟩ | ⟨source, es⟩
  · rfl
  · rw [Tree.unsourced, Tree.itemsUnsourced_eq_map, sectionOf, sectionOf, List.zip_map_right,
      List.zipIdx_map, List.foldlM_map]
    exact foldlM_unsourced (fun _ _ => hset ..) _ _
  · rw [Tree.unsourced, Tree.entriesUnsourced_eq_map, sectionOf, sectionOf, List.foldlM_map]
    exact foldlM_unsourced (fun _ _ => hset ..) _ _

theorem impartial_ok (a : A) : IsImpartial fun _ => .ok a := fun _ => rfl

theorem impartial_ite {p : Prop} [Decidable p] {f g : Tree → Except Fault A}
    (hf : IsImpartial f) (hg : IsImpartial g) : IsImpartial fun t => if p then f t else g t := by
  intro t
  show (if p then _ else _) = Except.mapError _ (if p then _ else _)
  split
  · exact hf t
  · exact hg t

end Impartial

/-! ## Sections -/

theorem impartial_projectOf : IsImpartial projectOf :=
  impartial_sectionOf fun p _ =>
    impartial_ite (stored_unsourced impartial_textOf _) (impartial_ok p)

theorem impartial_datasourceOf : IsImpartial datasourceOf :=
  impartial_sectionOf fun d _ =>
    impartial_ite (stored_unsourced impartial_textOf _) <|
    impartial_ite (stored_unsourced impartial_textOf _) <|
    impartial_ite (stored_unsourced impartial_textOf _) (impartial_ok d)

theorem impartial_backendOf : IsImpartial backendOf :=
  impartial_sectionOf fun b _ =>
    impartial_ite (stored_unsourced impartial_textOf _) <|
    impartial_ite (stored_unsourced impartial_textOf _) <|
    impartial_ite (stored_unsourced impartial_textOf _) <|
    impartial_ite (stored_unsourced impartial_portOf _) <|
    impartial_ite (stored_unsourced impartial_databaseOf _) <|
    impartial_ite (stored_unsourced impartial_datasourceOf _) (impartial_ok b)

theorem impartial_frontendOf : IsImpartial frontendOf :=
  impartial_sectionOf fun f _ =>
    impartial_ite (stored_unsourced impartial_textOf _) <|
    impartial_ite (stored_unsourced impartial_portOf _) <|
    impartial_ite (stored_unsourced impartial_textOf _) (impartial_ok f)

/-- Without the sources of its values a layer has the same settings, or the same fault but for its
source. -/
theorem ofTree_unsourced : IsImpartial ofTree :=
  impartial_sectionOf fun s _ =>
    impartial_ite (stored_unsourced impartial_projectOf _) <|
    impartial_ite (stored_unsourced impartial_backendOf _) <|
    impartial_ite (stored_unsourced impartial_frontendOf _) (impartial_ok s)

end CrudStack.Settings
