/-
# `CrudStack.Proofs.Lookup` — entries found by their keys

Tables are lists of entries, and a key finds the first entry that has it.
-/
import Mathlib.Data.List.Nodup

namespace CrudStack.Lookup

variable {K A : Type} [DecidableEq K] {key : K} {a : A} {es : List (K × A)}

theorem lookup_cons (e : K × A) :
    List.lookup key (e :: es) = if key = e.1 then some e.2 else es.lookup key := by
  rw [List.lookup_cons]
  split <;> simp_all

theorem lookup_append (es' : List (K × A)) :
    (es ++ es').lookup key = (es.lookup key).or (es'.lookup key) := by
  induction es with
  | nil => rfl
  | cons e es ih =>
      rw [List.cons_append, lookup_cons, lookup_cons, ih]
      split <;> rfl

theorem lookup_eq_none : es.lookup key = none ↔ key ∉ es.map (·.1) := by
  simp only [List.lookup_eq_none_iff, bne_iff_ne, List.mem_map, not_exists, not_and]
  exact ⟨fun h e he heq => h e he heq.symm, fun h e he heq => h e he heq.symm⟩

theorem mem_of_lookup (h : es.lookup key = some a) : (key, a) ∈ es := by
  obtain ⟨before, after, rfl, -⟩ := List.lookup_eq_some_iff.mp h
  exact List.mem_append_right _ List.mem_cons_self

/-- An entry is found by its key where no key repeats. -/
theorem lookup_of_mem (hkeys : (es.map (·.1)).Nodup) (h : (key, a) ∈ es) :
    es.lookup key = some a := by
  induction es with
  | nil => cases h
  | cons e es ih =>
      rw [List.map_cons, List.nodup_cons] at hkeys
      rw [lookup_cons]
      obtain rfl | h := List.mem_cons.mp h
      · exact if_pos rfl
      · rw [if_neg fun heq => hkeys.1 (List.mem_map.mpr ⟨_, h, heq⟩)]
        exact ih hkeys.2 h

/-- Where no key repeats, what the keys find is all that can be said but for the order. -/
theorem perm_iff_lookup {es' : List (K × A)} (hkeys : (es.map (·.1)).Nodup)
    (hkeys' : (es'.map (·.1)).Nodup) :
    es.Perm es' ↔ ∀ key, es.lookup key = es'.lookup key := by
  have hmem : ∀ {xs : List (K × A)}, (xs.map (·.1)).Nodup → ∀ {key : K} {a : A},
      xs.lookup key = some a ↔ (key, a) ∈ xs :=
    fun hxs => ⟨mem_of_lookup, lookup_of_mem hxs⟩
  constructor
  · intro h key
    refine Option.ext fun a => ?_
    rw [hmem hkeys, hmem hkeys', h.mem_iff]
  · intro h
    refine (List.perm_ext_iff_of_nodup (.of_map _ hkeys) (.of_map _ hkeys')).mpr ?_
    rintro ⟨key, a⟩
    rw [← hmem hkeys, ← hmem hkeys', h key]

end CrudStack.Lookup
