/-
# `CrudStack.Proofs.Sheet.Mentioned` — what a class sheet sees of the model

Every class is filled in with the whole model at hand.  What it takes from there goes through the
types that its features mention, and of these through one question only: is there a class of this
name?  So two models that answer it alike for the mentioned names give the class the same sheet
(`classSheet_congr`), whatever else is in them.
-/
import CrudStack.Sheet
import Mathlib.Data.List.Basic

namespace CrudStack

/-- The type names of a method: what it returns, then its parameters. -/
def Method.typeNames (method : Method) : List String :=
  method.returnType :: method.parameters.map (·.typeName)

/-- The type names that the features of a class mention. -/
def ClassDef.typeNames (c : ClassDef) : List String :=
  c.attributes.map (·.typeName) ++ c.methods.flatMap Method.typeNames

theorem hasClass_iff (m : Model) (name : String) :
    m.hasClass name = true ↔ name ∈ m.classes.map (·.name) := by
  simp [Model.hasClass]

theorem hasClass_congr {m m' : Model} {name : String}
    (h : name ∈ m.classes.map (·.name) ↔ name ∈ m'.classes.map (·.name)) :
    m.hasClass name = m'.hasClass name := by
  rw [Bool.eq_iff_iff, hasClass_iff, hasClass_iff, h]

theorem mapM_congr_left {σ α β : Type} {f g : α → StateM σ β} :
    ∀ {xs : List α}, (∀ x ∈ xs, f x = g x) → xs.mapM f = xs.mapM g
  | [], _ => rfl
  | x :: xs, h => by
      rw [List.mapM_cons, List.mapM_cons, h x List.mem_cons_self,
        mapM_congr_left fun y hy => h y (List.mem_cons_of_mem x hy)]

section Types

variable {m m' : Model} {typeName : String} (h : m.hasClass typeName = m'.hasClass typeName)

include h

theorem resolve_congr : m.resolve typeName = m'.resolve typeName := by
  funext stack
  unfold Model.resolve
  rw [h]

theorem resolveReturn_congr : m.resolveReturn typeName = m'.resolveReturn typeName := by
  funext stack
  unfold Model.resolveReturn
  rw [h]

end Types

section Slots

variable {m m' : Model} {slot : Slot} (h : m.hasClass slot.typeName = m'.hasClass slot.typeName)

include h

theorem fieldSheet_congr : FieldSheet.ofSlot m slot = FieldSheet.ofSlot m' slot := by
  unfold FieldSheet.ofSlot
  rw [resolve_congr h]

theorem notedField_congr : FieldSheet.noted m slot = FieldSheet.noted m' slot := by
  unfold FieldSheet.noted
  rw [resolve_congr h, fieldSheet_congr h]

theorem notedParameter_congr : notedParameter m slot = notedParameter m' slot := by
  unfold notedParameter
  rw [resolve_congr h]

end Slots

section Methods

variable {m m' : Model} {method : Method}
  (h : ∀ name ∈ method.typeNames, m.hasClass name = m'.hasClass name)

include h

theorem parameter_congr {p : Slot} (hp : p ∈ method.parameters) :
    m.hasClass p.typeName = m'.hasClass p.typeName :=
  h p.typeName (List.mem_cons_of_mem _ (List.mem_map_of_mem hp))

theorem notedMethod_congr : MethodSheet.noted m method = MethodSheet.noted m' method := by
  have hreturn := resolveReturn_congr (h method.returnType List.mem_cons_self)
  have hparameters : method.parameters.mapM (notedParameter m) =
      method.parameters.mapM (notedParameter m') :=
    mapM_congr_left fun p hp => notedParameter_congr (parameter_congr h hp)
  unfold MethodSheet.noted
  rw [hreturn, hparameters]

end Methods

section Classes

variable {m m' : Model} {c : ClassDef}
  (h : ∀ name ∈ c.typeNames, m.hasClass name = m'.hasClass name)

include h

theorem attribute_congr {a : Slot} (ha : a ∈ c.attributes) :
    m.hasClass a.typeName = m'.hasClass a.typeName :=
  h a.typeName (List.mem_append_left _ (List.mem_map_of_mem ha))

theorem method_congr {method : Method} (hmethod : method ∈ c.methods) :
    ∀ name ∈ method.typeNames, m.hasClass name = m'.hasClass name := fun name hname =>
  h name (List.mem_append_right _ (List.mem_flatMap.mpr ⟨method, hmethod, hname⟩))

theorem noted_congr : c.noted m = c.noted m' := by
  have hfields : c.attributes.mapM (FieldSheet.noted m) = c.attributes.mapM (FieldSheet.noted m') :=
    mapM_congr_left fun a ha => notedField_congr (attribute_congr h ha)
  have hmethods : c.methods.mapM (MethodSheet.noted m) = c.methods.mapM (MethodSheet.noted m') :=
    mapM_congr_left fun method hmethod => notedMethod_congr (method_congr h hmethod)
  unfold ClassDef.noted
  rw [hfields, hmethods]

theorem classSheet_congr (s : Settings) (project : String) :
    ClassSheet.make m s project c = ClassSheet.make m' s project c := by
  unfold ClassSheet.make
  rw [noted_congr h]

end Classes

end CrudStack
