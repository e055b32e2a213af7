/-
# `CrudStack.Proofs.Settings.Merged` — what a path finds in merged layers

A value of a layer is found by its path.  If there is nothing but tables along a path, merging is
pointwise there: the newer layer's value is found if it has one, and the older layer's value if it
has none (`at?_mergeInto`).  The tables have their keys in increasing order, so no key repeats.
-/
import CrudStack.Settings.Tree
import Mathlib.Data.String.Basic

namespace CrudStack.Settings.Tree

/-! ## Paths -/

/-- What a path leads to. -/
def at? (t : Tree) : List String → Option Tree
  | [] => some t
  | key :: path =>
    match t.entries.lookup key with
    | some sub => sub.at? path
    | none => none

/-- The keys of a table stand in increasing order. -/
def Increasing (es : List (String × Tree)) : Prop := es.Pairwise fun a b => a.1 < b.1

/-- There is nothing but tables along a path, as far as there is anything. -/
def Leads (t : Tree) : List String → Prop
  | [] => True
  | key :: path => ∃ source es, t = .table source es ∧ Increasing es ∧
      ∀ sub, es.lookup key = some sub → sub.Leads path

/-! ## Tables -/

section Entries

variable {key k : String} {value : Tree} {es : List (String × Tree)}

theorem lookup_eq_none_of_increasing {e : String × Tree} (h : Increasing (e :: es)) :
    es.lookup e.1 = none :=
  List.lookup_eq_none_iff.mpr fun _ hp =>
    bne_iff_ne.mpr (ne_of_lt ((List.pairwise_cons.mp h).1 _ hp))

/-- In a table with increasing keys every entry is the one that its key finds. -/
theorem lookup_of_mem_increasing (h : Increasing es) {e : String × Tree} (he : e ∈ es) :
    es.lookup e.1 = some e.2 := by
  induction es with
  | nil => cases he
  | cons first rest ih =>
      obtain ⟨hfirst, hrest⟩ := List.pairwise_cons.mp h
      obtain rfl | he := List.mem_cons.mp he
      · rw [List.lookup_cons, beq_self_eq_true]
      · rw [List.lookup_cons, beq_eq_false_iff_ne.mpr (ne_of_gt (hfirst e he))]
        exact ih hrest he

theorem lookup_place :
    (place key value es).lookup k = if k = key then some value else es.lookup k := by
  induction es with
  | nil => rw [place, List.lookup_cons, List.lookup_nil]; split <;> simp_all
  | cons e es ih =>
      obtain ⟨name, old⟩ := e
      rw [place]
      split
      · next h =>
          subst h
          simp only [List.lookup_cons]
          split <;> simp_all
      · next hne =>
          split
          · rw [List.lookup_cons]
            split <;> simp_all
          · rw [List.lookup_cons, List.lookup_cons, ih]
            by_cases hk : k = name
            · have hkey : k ≠ key := fun heq => hne (heq.symm.trans hk)
              subst hk
              simp only [beq_self_eq_true, if_neg hkey]
            · rw [beq_eq_false_iff_ne.mpr hk]

theorem mem_place {e : String × Tree} (h : e ∈ place key value es) : e.1 = key ∨ e ∈ es := by
  induction es with
  | nil => exact .inl (congrArg Prod.fst (List.mem_singleton.mp h))
  | cons first rest ih =>
      obtain ⟨name, old⟩ := first
      rw [place] at h
      split at h
      · obtain rfl | h := List.mem_cons.mp h
        · exact .inl rfl
        · exact .inr (List.mem_cons_of_mem _ h)
      · split at h
        · obtain rfl | h := List.mem_cons.mp h
          · exact .inl rfl
          · exact .inr h
        · obtain rfl | h := List.mem_cons.mp h
          · exact .inr List.mem_cons_self
          · exact (ih h).imp_right (List.mem_cons_of_mem _)

theorem increasing_place (h : Increasing es) : Increasing (place key value es) := by
  induction es with
  | nil => exact List.pairwise_singleton _ _
  | cons first rest ih =>
      obtain ⟨name, old⟩ := first
      obtain ⟨hfirst, hrest⟩ := List.pairwise_cons.mp h
      rw [place]
      split
      · next heq =>
          subst heq
          exact List.pairwise_cons.mpr ⟨hfirst, hrest⟩
      · next hne =>
          split
          · next hlt =>
              refine List.pairwise_cons.mpr ⟨fun e he => ?_, h⟩
              obtain rfl | he := List.mem_cons.mp he
              · exact hlt
              · exact lt_trans hlt (hfirst e he)
          · next hnot =>
              have hlt : name < key := lt_of_le_of_ne (not_lt.mp hnot) (Ne.symm hne)
              refine List.pairwise_cons.mpr ⟨fun e he => ?_, ih hrest⟩
              obtain heq | he := mem_place he
              · exact heq ▸ hlt
              · exact hfirst e he

end Entries

/-! ## Merging -/

/-- A newer value over an older one that may be absent. -/
def upon : Option Tree → Tree → Tree
  | some old, newer => mergeInto old newer
  | none, newer => newer

/-- What two layers have at one place, one over the other. -/
def overlaid (old : Option Tree) : Option Tree → Option Tree
  | some newer => some (upon old newer)
  | none => old

theorem mergeEntries_cons (old : List (String × Tree)) (key : String) (value : Tree)
    (rest : List (String × Tree)) :
    mergeEntries old ((key, value) :: rest) =
      mergeEntries (place key (upon (old.lookup key) value) old) rest := by
  rw [mergeEntries]
  cases old.lookup key <;> rfl

theorem increasing_mergeEntries {old new : List (String × Tree)} (h : Increasing old) :
    Increasing (mergeEntries old new) := by
  induction new generalizing old with
  | nil => exact h
  | cons e rest ih =>
      rw [mergeEntries_cons]
      exact ih (increasing_place h)

/-- Entries are merged key by key. -/
theorem lookup_mergeEntries {old new : List (String × Tree)} (h : Increasing new) (k : String) :
    (mergeEntries old new).lookup k = overlaid (old.lookup k) (new.lookup k) := by
  induction new generalizing old with
  | nil => rfl
  | cons e rest ih =>
      obtain ⟨key, value⟩ := e
      rw [mergeEntries_cons, ih (List.pairwise_cons.mp h).2, lookup_place]
      by_cases hk : k = key
      · subst hk
        rw [if_pos rfl, lookup_eq_none_of_increasing h, List.lookup_cons, beq_self_eq_true]
        rfl
      · rw [if_neg hk, List.lookup_cons, beq_eq_false_iff_ne.mpr hk]

/-- Along a path of tables merging is pointwise, and the merged layer has tables along it too. -/
theorem at?_mergeInto {old new : Tree} {path : List String} (hold : old.Leads path)
    (hnew : new.Leads path) :
    (mergeInto old new).at? path = overlaid (old.at? path) (new.at? path) ∧
      (mergeInto old new).Leads path := by
  induction path generalizing old new with
  | nil => exact ⟨rfl, trivial⟩
  | cons key path ih =>
      obtain ⟨oldSource, es, rfl, hes, holdRest⟩ := hold
      obtain ⟨source, es', rfl, hes', hnewRest⟩ := hnew
      have hlookup : (mergeEntries es es').lookup key = overlaid (es.lookup key) (es'.lookup key) :=
        lookup_mergeEntries hes' key
      have hmerged : Increasing (mergeEntries es es') := increasing_mergeEntries hes
      simp only [mergeInto, at?, entries, hlookup]
      cases hn : es'.lookup key with
      | none =>
          refine ⟨rfl, source, _, rfl, hmerged, fun sub hsub => ?_⟩
          rw [hlookup, hn] at hsub
          exact holdRest sub hsub
      | some newer =>
          cases ho : es.lookup key with
          | none =>
              refine ⟨?_, source, _, rfl, hmerged, fun sub hsub => ?_⟩
              · show newer.at? path = overlaid none (newer.at? path)
                cases newer.at? path <;> rfl
              · rw [hlookup, hn, ho] at hsub
                cases hsub
                exact hnewRest newer hn
          | some older =>
              obtain ⟨hat, hleads⟩ := ih (holdRest older ho) (hnewRest newer hn)
              refine ⟨hat, source, _, rfl, hmerged, fun sub hsub => ?_⟩
              rw [hlookup, hn, ho] at hsub
              cases hsub
              exact hleads

end CrudStack.Settings.Tree
