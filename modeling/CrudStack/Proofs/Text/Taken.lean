/-
# `CrudStack.Proofs.Text.Taken` — characters of a class at the head of a text

What is taken from a text, or skipped in it, as long as the characters are of a class.
-/
import Mathlib.Data.List.TakeDrop
import Mathlib.Data.List.TakeWhile

namespace CrudStack.Text

variable {A : Type} {p : A → Bool} {own rest : List A}

/-- A text does not go on with something of a class. -/
def Stops (p : A → Bool) (rest : List A) : Prop := ∀ c, rest.head? = some c → p c = false

theorem stops_nil : Stops p [] := nofun

theorem stops_cons {c : A} : Stops p (c :: rest) ↔ p c = false := by
  simp [Stops]

theorem dropWhile_of_stops (h : Stops p rest) : rest.dropWhile p = rest := by
  cases rest with
  | nil => rfl
  | cons c rest => rw [List.dropWhile_cons, stops_cons.mp h]; rfl

theorem takeWhile_of_stops (h : Stops p rest) : rest.takeWhile p = [] := by
  cases rest with
  | nil => rfl
  | cons c rest => rw [List.takeWhile_cons, stops_cons.mp h]; rfl

theorem dropWhile_append (hown : ∀ c ∈ own, p c = true) (h : Stops p rest) :
    (own ++ rest).dropWhile p = rest := by
  rw [List.dropWhile_append_of_pos hown, dropWhile_of_stops h]

theorem span_append (hown : ∀ c ∈ own, p c = true) (h : Stops p rest) :
    (own ++ rest).span p = (own, rest) := by
  rw [List.span_eq_takeWhile_dropWhile, List.takeWhile_append_of_pos hown, takeWhile_of_stops h,
    List.append_nil, dropWhile_append hown h]

/-- What is taken is of the class, and the rest does not go on with it. -/
theorem span_eq {cs : List A} (h : cs.span p = (own, rest)) :
    cs = own ++ rest ∧ (∀ c ∈ own, p c = true) ∧ Stops p rest := by
  rw [List.span_eq_takeWhile_dropWhile] at h
  cases h
  refine ⟨List.takeWhile_append_dropWhile.symm, fun c hc => List.mem_takeWhile_imp hc, ?_⟩
  intro c hc
  have hne : cs.dropWhile p ≠ [] := fun hnil => by
    rw [hnil] at hc
    cases hc
  have hhead := List.head_dropWhile_not p hne
  rw [List.head?_eq_some_head hne, Option.some.injEq] at hc
  exact hc ▸ hhead

end CrudStack.Text
