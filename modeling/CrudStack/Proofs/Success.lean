/-
# `CrudStack.Proofs.Success` — computations that can fail, where they succeed

A chain of computations succeeds if every one of them does.  These equivalences turn the success of
a reader, or of an operation on a disk, into what its parts have yielded.
-/
import Mathlib.Data.List.Forall2

namespace CrudStack

variable {ε A B : Type}

theorem bind_eq_ok {x : Except ε A} {f : A → Except ε B} {b : B} :
    (x >>= f) = .ok b ↔ ∃ a, x = .ok a ∧ f a = .ok b := by
  cases x <;> simp [bind, Except.bind]

theorem ok_bind {a : A} {f : A → Except ε B} : (Except.ok a >>= f) = f a := rfl

theorem pure_eq_ok {a b : A} : (pure a : Except ε A) = .ok b ↔ b = a := by
  simp [pure, Except.pure, eq_comm]

theorem map_eq_ok {x : Except ε A} {f : A → B} {b : B} :
    x.map f = .ok b ↔ ∃ a, x = .ok a ∧ b = f a := by
  cases x <;> simp [Except.map, eq_comm]

theorem mapError_eq_ok {ε' : Type} {x : Except ε A} {f : ε → ε'} {a : A} :
    x.mapError f = .ok a ↔ x = .ok a := by
  cases x <;> simp [Except.mapError]

theorem toOption_eq_some {x : Except ε A} {a : A} : x.toOption = some a ↔ x = .ok a := by
  cases x <;> simp [Except.toOption]

/-- A list is gone through with success if every element is. -/
theorem mapM_eq_ok {f : A → Except ε B} {xs : List A} {ys : List B} :
    xs.mapM f = .ok ys ↔ List.Forall₂ (fun x y => f x = .ok y) xs ys := by
  induction xs generalizing ys with
  | nil => rw [List.mapM_nil, pure_eq_ok, List.forall₂_nil_left_iff]
  | cons x xs ih =>
      rw [List.mapM_cons, List.forall₂_cons_left_iff]
      simp only [bind_eq_ok, pure_eq_ok, ih]
      constructor
      · rintro ⟨y, hy, ys, hys, rfl⟩
        exact ⟨y, ys, hy, hys, rfl⟩
      · rintro ⟨y, ys, hy, hys, rfl⟩
        exact ⟨y, hy, ys, hys, rfl⟩

/-- What every step of a fold keeps, the fold keeps. -/
theorem foldlM_keeps {P : B → Prop} {f : B → A → Except ε B}
    (hstep : ∀ b a b', P b → f b a = .ok b' → P b') {as : List A} {b b' : B} (hb : P b)
    (h : as.foldlM f b = .ok b') : P b' := by
  induction as generalizing b with
  | nil =>
      rw [List.foldlM_nil, pure_eq_ok] at h
      rwa [h]
  | cons a rest ih =>
      rw [List.foldlM_cons, bind_eq_ok] at h
      obtain ⟨next, hnext, hrest⟩ := h
      exact ih (hstep b a next hb hnext) hrest

end CrudStack
