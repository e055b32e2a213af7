/-
# `CrudStack.Proofs.Model.Shape` — which JSON values are models

The shape of a model, said of values and without a reader: what stands where, and which model a
value is.  Members are found by their names, so their order does not matter, and a member that is
not asked for may be there and be anything.

Texts have more in them than the shape is about.  `Documented` says what is asked of a text besides:
names that do not repeat, few enough levels, integers of 64 bits, and objects where the elements of
a list are read.
-/
import CrudStack.Model
import CrudStack.Proofs.Json.Inside
import CrudStack.Proofs.Json.Range
import Mathlib.Data.List.Forall2
import Mathlib.Tactic.MkIffOfInductiveProp

namespace CrudStack

open Json (Value Literal)

namespace Model

/-! ## The shape of a model -/

/-- The elements of a list that may be absent, one by one. -/
def ListOf {A : Type} (is : Value → A → Prop) : Option Value → List A → Prop
  | none, xs => xs = []
  | some (.list vs), xs => List.Forall₂ is vs xs
  | some _, _ => False

/-- A name with a type. -/
@[mk_iff]
structure IsSlot (v : Value) (s : Slot) : Prop where
  name : v.member? "name" = some (.text s.name)
  typeName : v.member? "type" = some (.text s.typeName)

/-- A method: its parameters may be absent. -/
@[mk_iff]
structure IsMethod (v : Value) (m : Method) : Prop where
  name : v.member? "name" = some (.text m.name)
  returnType : v.member? "type" = some (.text m.returnType)
  parameters : ListOf IsSlot (v.member? "parameters") m.parameters

/-- A feature of the kind that it says. -/
inductive IsFeature (v : Value) : Feature → Prop
  | attr {s : Slot} : v.member? "kind" = some (.text "attribute") → IsSlot v s →
      IsFeature v (.attr s)
  | method {m : Method} : v.member? "kind" = some (.text "method") → IsMethod v m →
      IsFeature v (.method m)

/-- A class: its features may be absent. -/
@[mk_iff]
structure IsClass (v : Value) (c : ClassDef) : Prop where
  name : v.member? "name" = some (.text c.name)
  features : ListOf IsFeature (v.member? "features") c.features

/-- A model: its classes may be absent. -/
@[mk_iff]
structure IsModel (v : Value) (m : Model) : Prop where
  object : v.IsObject
  classes : ListOf IsClass (v.member? "classes") m.classes

/-! ## What is asked of a text besides -/

/-- The elements of the list of classes. -/
def classValues (v : Value) : List Value := Value.elements (v.member? "classes")

/-- The elements of the lists of features, class by class. -/
def featureValues (v : Value) : List Value :=
  (classValues v).flatMap fun c => Value.elements (c.member? "features")

/-- An integer of 64 bits. -/
def FitsWord (l : Literal) : Prop :=
  -(Nat.pow 2 63 : Int) ≤ l.integer ∧ l.integer < (Nat.pow 2 63 : Int)

/-- A value within the bounds of what is documented. -/
structure Documented (v : Value) : Prop where
  object : v.IsObject
  classes : ∀ c ∈ classValues v, c.IsObject
  features : ∀ f ∈ featureValues v, f.IsObject
  parameters : ∀ f ∈ featureValues v, f.member? "kind" = some (.text "method") →
    ∀ p ∈ Value.elements (f.member? "parameters"), p.IsObject
  keys : v.DistinctKeys
  depth : v.depth ≤ 100
  integers : ∀ l ∈ v.numbers, l.IsWhole → FitsWord l

/-- No number with a fraction or an exponent in a feature is beyond the greatest double.  An integer
of 64 bits never is (`Literal.inRange_of_integer`). -/
def WithinDoubles (v : Value) : Prop :=
  ∀ f ∈ featureValues v, ∀ l ∈ f.numbers, ¬ l.IsWhole → l.FitsDouble

theorem inside_feature {v f : Value} (hf : f ∈ featureValues v) : Json.Inside f v := by
  obtain ⟨c, hc, hfc⟩ := List.mem_flatMap.mp hf
  exact (Json.inside_element hfc).trans (Json.inside_element hc)

theorem withinDoubles_iff {v : Value} (hv : Documented v) (hl : ∀ l ∈ v.numbers, l.WellFormed) :
    (∀ f ∈ featureValues v, f.NumbersInRange) ↔ WithinDoubles v := by
  have hnumbers : ∀ f ∈ featureValues v, ∀ l ∈ f.numbers, l ∈ v.numbers := fun f hf =>
    (inside_feature hf).numbers
  constructor
  · intro h f hf l hnumber _
    exact (Literal.fitsDouble_iff (hl l (hnumbers f hf l hnumber))).mpr (h f hf l hnumber)
  · intro h f hf l hnumber
    have hinside := hnumbers f hf l hnumber
    by_cases hwhole : l.IsWhole
    · obtain ⟨hlow, hhigh⟩ := hv.integers l hinside hwhole
      exact l.inRange_of_integer hwhole hlow hhigh
    · exact (Literal.fitsDouble_iff (hl l hinside)).mp (h f hf l hnumber hwhole)

end Model

end CrudStack
