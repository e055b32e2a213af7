/-
# `CrudStack.Proofs.Json.Inside` — members and elements

A member is found by its name, and an element of a list is where it is.  What is inside a value
keeps what the value has: no repeated names, fewer levels, and none but its numbers (`Inside`).
-/
import CrudStack.Proofs.Json.Grammar

namespace CrudStack.Json

namespace Value

/-- A value with members. -/
def IsObject : Value → Prop
  | .object _ => True
  | _ => False

/-- The member of a name. -/
def member? (v : Value) (name : String) : Option Value :=
  match v with
  | .object ms => ms.lookup name
  | _ => none

/-- The elements of a list that may be absent. -/
def elements : Option Value → List Value
  | some (.list vs) => vs
  | _ => []

end Value

/-! ## Looking up -/

section Lookup

variable {key name : String} {v : Value} {ms : List (String × Value)}

theorem lookup_self : ((key, v) :: ms).lookup key = some v := by
  rw [List.lookup_cons, beq_self_eq_true]

theorem lookup_other (h : key ≠ name) : ((key, v) :: ms).lookup name = ms.lookup name := by
  rw [List.lookup_cons, beq_eq_false_iff_ne.mpr (Ne.symm h)]

/-- A name that does not repeat is not found again. -/
theorem lookup_rest (h : (((key, v) :: ms).map (·.1)).Nodup) : ms.lookup key = none :=
  List.lookup_eq_none_iff.mpr fun _ hm => bne_iff_ne.mpr fun heq =>
    (List.nodup_cons.mp h).1 (List.mem_map.mpr ⟨_, hm, heq.symm⟩)

/-- A member whose name does not repeat is found. -/
theorem lookup_of_mem (hkeys : (ms.map (·.1)).Nodup) (h : (key, v) ∈ ms) :
    ms.lookup key = some v := by
  induction ms with
  | nil => cases h
  | cons m ms ih =>
      obtain ⟨hnot, hothers⟩ := List.nodup_cons.mp hkeys
      obtain rfl | h := List.mem_cons.mp h
      · exact lookup_self
      · rw [lookup_other fun heq => hnot (List.mem_map.mpr ⟨_, h, heq.symm⟩)]
        exact ih hothers h

end Lookup

/-! ## Values in values -/

theorem membersDistinctKeys_iff {ms : List (String × Value)} :
    MembersDistinctKeys ms ↔ ∀ m ∈ ms, m.2.DistinctKeys := by
  induction ms with
  | nil => exact ⟨fun _ m hm => (List.not_mem_nil hm).elim, fun _ => trivial⟩
  | cons m ms ih => rw [List.forall_mem_cons, MembersDistinctKeys, ih]

/-- What a value has in common with one that it is inside of. -/
structure Inside (x v : Value) : Prop where
  keys : v.DistinctKeys → x.DistinctKeys
  depth : x.depth < v.depth
  numbers : ∀ l ∈ x.numbers, l ∈ v.numbers

theorem Inside.trans {x y z : Value} (h : Inside x y) (h' : Inside y z) : Inside x z :=
  ⟨fun hz => h.keys (h'.keys hz), Nat.lt_trans h.depth h'.depth,
    fun l hl => h'.numbers l (h.numbers l hl)⟩

theorem inside_list {x : Value} {vs : List Value} (h : x ∈ vs) : Inside x (.list vs) := by
  induction vs with
  | nil => cases h
  | cons v vs ih =>
      rw [List.mem_cons] at h
      refine ⟨fun hkeys => ?_, ?_, fun l hl => ?_⟩
      · obtain rfl | h := h
        · exact hkeys.1
        · exact (ih h).keys hkeys.2
      · obtain rfl | h := h
        · simp only [Value.depth, itemsDepth]
          omega
        · have := (ih h).depth
          simp only [Value.depth, itemsDepth] at this ⊢
          omega
      · obtain rfl | h := h
        · exact List.mem_append_left _ hl
        · exact List.mem_append_right _ ((ih h).numbers l hl)

theorem inside_object {key : String} {x : Value} {ms : List (String × Value)} (h : (key, x) ∈ ms) :
    Inside x (.object ms) := by
  induction ms with
  | nil => cases h
  | cons m ms ih =>
      rw [List.mem_cons] at h
      refine ⟨fun hkeys => ?_, ?_, fun l hl => ?_⟩
      · obtain rfl | h := h
        · exact hkeys.2.1
        · exact (ih h).keys ⟨(List.nodup_cons.mp hkeys.1).2, hkeys.2.2⟩
      · obtain rfl | h := h
        · simp only [Value.depth, membersDepth]
          omega
        · have := (ih h).depth
          simp only [Value.depth, membersDepth] at this ⊢
          omega
      · obtain rfl | h := h
        · exact List.mem_append_left _ hl
        · exact List.mem_append_right _ ((ih h).numbers l hl)

/-- The member of a name is inside. -/
theorem inside_member {v x : Value} {name : String} (h : v.member? name = some x) : Inside x v := by
  cases v with
  | object ms =>
      obtain ⟨before, after, rfl, -⟩ := List.lookup_eq_some_iff.mp h
      exact inside_object (List.mem_append_right _ List.mem_cons_self)
  | _ => cases h

/-- The elements of a member are inside. -/
theorem inside_element {v x : Value} {name : String} (h : x ∈ Value.elements (v.member? name)) :
    Inside x v := by
  unfold Value.elements at h
  split at h
  · next vs hvs => exact (inside_list h).trans (inside_member hvs)
  · cases h

end CrudStack.Json
