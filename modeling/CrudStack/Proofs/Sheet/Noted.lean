/-
# `CrudStack.Proofs.Sheet.Noted` — the pass over the features of a class

The sheet of a class is made in one pass, and the notes of the types go along: they are handed from
attribute to attribute, then from method to method, and within a method from what it returns to its
parameters.  What the notes are after some types were mentioned is an invariant (`Notes.Account`),
which one more type keeps (`Account.add`).  A part of the pass is `Noting` if it gives its value and
keeps the invariant for the types that it mentions; this is so for every type, and it is handed on
from the parts to the whole (`Noting.bind`, `Noting.mapM`).

So the sheet has the fields and the stubs that the features are by themselves
(`ClassSheet.make_eq`), and its notes account for just the types that are mentioned
(`account_noted`).
-/
import CrudStack.Sheet
import Mathlib.Data.String.Basic

namespace CrudStack

/-! ## Insertion -/

theorem mem_insertName {name n : String} : ∀ {names : List String},
    n ∈ insertName name names ↔ n = name ∨ n ∈ names
  | [] => List.mem_singleton.trans (by simp)
  | first :: rest => by
      rw [insertName]
      split
      · next heq => exact ⟨.inr, fun h => h.elim (fun hn => hn ▸ heq ▸ List.mem_cons_self) id⟩
      · split
        · exact List.mem_cons
        · rw [List.mem_cons, mem_insertName, List.mem_cons, or_left_comm]

/-- A name is placed behind smaller ones and before larger ones. -/
theorem sorted_insertName (name : String) : ∀ {names : List String},
    names.Pairwise (· < ·) → (insertName name names).Pairwise (· < ·)
  | [], _ => List.pairwise_singleton _ name
  | first :: rest, h => by
      obtain ⟨hfirst, hrest⟩ := List.pairwise_cons.mp h
      rw [insertName]
      split
      · exact h
      · next hne =>
          split
          · next hlt =>
              refine List.pairwise_cons.mpr ⟨fun n hn => ?_, h⟩
              rcases List.mem_cons.mp hn with rfl | hn
              · exact hlt
              · exact hlt.trans (hfirst n hn)
          · next hnot =>
              have hgt : first < name := lt_of_le_of_ne (le_of_not_gt hnot) (Ne.symm hne)
              refine List.pairwise_cons.mpr ⟨fun n hn => ?_, sorted_insertName name hrest⟩
              rcases mem_insertName.mp hn with rfl | hn
              · exact hgt
              · exact hfirst n hn

/-! ## Mentions -/

/-- A type name of a class with the Spring Boot type that it stands for. -/
structure Mention where
  typeName : String
  target : TargetType
  deriving DecidableEq, Repr

/-- A type name in the place of an attribute or a parameter. -/
def Mention.ofSlot (m : Model) (slot : Slot) : Mention :=
  ⟨slot.typeName, m.resolve slot.typeName .springBoot⟩

/-- A type name in the place of a return type. -/
def Mention.ofReturn (m : Model) (method : Method) : Mention :=
  ⟨method.returnType, m.resolveReturn method.returnType .springBoot⟩

/-- The type names of a method: what it returns, then its parameters. -/
def Mention.ofMethod (m : Model) (method : Method) : List Mention :=
  .ofReturn m method :: method.parameters.map (.ofSlot m)

/-- All type names of a class: the attributes first, then method by method. -/
def ClassDef.mentions (c : ClassDef) (m : Model) : List Mention :=
  c.attributes.map (.ofSlot m) ++ c.methods.flatMap (Mention.ofMethod m)

/-- The stub of a method. -/
def MethodSheet.ofMethod (m : Model) (method : Method) : MethodSheet :=
  { name := method.name
    returnType := (m.resolveReturn method.returnType .springBoot).name
    parameters := ", ".intercalate (method.parameters.map fun p =>
      (m.resolve p.typeName .springBoot).name ++ " " ++ p.name) }

/-! ## The invariant -/

/-- What the notes are after types were mentioned. -/
structure Notes.Account (n : Notes) (mentioned : List Mention) : Prop where
  sorted : n.imports.Pairwise (· < ·)
  imported : ∀ name, name ∈ n.imports ↔
    ∃ mention ∈ mentioned, mention.target.importName = some name
  unresolved : n.unresolved =
    (mentioned.filter (·.target.resolution == .fallback)).map (·.typeName)

namespace Notes

theorem Account.empty : Account {} [] where
  sorted := .nil
  imported := by simp
  unresolved := rfl

/-- One more type comes behind those before it. -/
theorem Account.add {n : Notes} {before : List Mention} (h : n.Account before) (typeName : String)
    (target : TargetType) : (n.add typeName target).Account (before ++ [⟨typeName, target⟩]) where
  sorted := by
    unfold Notes.add
    cases target.importName with
    | none => exact h.sorted
    | some name => exact sorted_insertName name h.sorted
  imported := by
    intro name
    have hmentioned : (∃ mention ∈ before ++ [⟨typeName, target⟩],
        mention.target.importName = some name) ↔
          name ∈ n.imports ∨ target.importName = some name := by
      rw [h.imported]
      simp [or_and_right, exists_or]
    rw [hmentioned]
    unfold Notes.add
    cases target.importName with
    | none => simp
    | some first => simp [mem_insertName, or_comm, eq_comm]
  unresolved := by
    rw [List.filter_append, List.map_append, ← h.unresolved]
    unfold Notes.add
    cases hfallback : target.resolution == .fallback <;> simp [hfallback]

end Notes

/-! ## Parts of the pass -/

/-- A part of the pass gives a value and adds mentions to what was mentioned before. -/
def Noting {α : Type} (part : StateM Notes α) (value : α) (mentioned : List Mention) : Prop :=
  ∀ (n : Notes) (before : List Mention), n.Account before →
    (part.run n).1 = value ∧ (part.run n).2.Account (before ++ mentioned)

section Parts

variable {α β : Type}

theorem noting_note (typeName : String) (target : TargetType) :
    Noting (note typeName target) target.name [⟨typeName, target⟩] := fun _ _ h =>
  ⟨rfl, h.add typeName target⟩

theorem Noting.pure (value : α) : Noting (Pure.pure value) value [] := fun _ before h =>
  ⟨rfl, (List.append_nil before).symm ▸ h⟩

theorem Noting.bind {part : StateM Notes α} {rest : α → StateM Notes β} {a : α} {b : β}
    {first second : List Mention} (hpart : Noting part a first) (hrest : Noting (rest a) b second) :
    Noting (part >>= rest) b (first ++ second) := by
  intro n before h
  obtain ⟨hvalue, hafter⟩ := hpart n before h
  have hsecond := hrest (part.run n).2 (before ++ first) hafter
  rw [List.append_assoc, ← hvalue] at hsecond
  exact hsecond

/-- What comes last may only put values together. -/
theorem Noting.value {part : StateM Notes α} {a : α} {mentioned : List Mention}
    (h : Noting part a mentioned) (f : α → β) :
    Noting (part >>= fun a => Pure.pure (f a)) (f a) mentioned :=
  List.append_nil mentioned ▸ h.bind (.pure (f a))

theorem Noting.mapM {part : α → StateM Notes β} {value : α → β} {mentioned : α → List Mention} :
    ∀ {xs : List α}, (∀ x ∈ xs, Noting (part x) (value x) (mentioned x)) →
      Noting (xs.mapM part) (xs.map value) (xs.flatMap mentioned)
  | [], _ => by
      rw [List.mapM_nil]
      exact .pure []
  | x :: xs, h => by
      have hrest := Noting.mapM fun y hy => h y (List.mem_cons_of_mem x hy)
      rw [List.mapM_cons, List.flatMap_cons]
      exact (h x List.mem_cons_self).bind (hrest.value (value x :: ·))

end Parts

section Features

variable (m : Model)

theorem noting_field (a : Slot) : Noting (FieldSheet.noted m a) (.ofSlot m a) [.ofSlot m a] :=
  (noting_note a.typeName (m.resolve a.typeName .springBoot)).value fun _ => FieldSheet.ofSlot m a

theorem noting_parameter (p : Slot) :
    Noting (notedParameter m p) ((m.resolve p.typeName .springBoot).name ++ " " ++ p.name)
      [.ofSlot m p] :=
  (noting_note p.typeName (m.resolve p.typeName .springBoot)).value (· ++ " " ++ p.name)

theorem noting_method (method : Method) :
    Noting (MethodSheet.noted m method) (.ofMethod m method) (Mention.ofMethod m method) := by
  have hparameters := Noting.mapM fun p (_ : p ∈ method.parameters) => noting_parameter m p
  rw [← List.map_eq_flatMap] at hparameters
  exact (noting_note method.returnType (m.resolveReturn method.returnType .springBoot)).bind
    (hparameters.value _)

theorem noting_class (c : ClassDef) :
    Noting (c.noted m) (c.attributes.map (.ofSlot m), c.methods.map (.ofMethod m))
      (c.mentions m) := by
  have hfields := Noting.mapM fun a (_ : a ∈ c.attributes) => noting_field m a
  have hmethods := Noting.mapM fun method (_ : method ∈ c.methods) => noting_method m method
  rw [← List.map_eq_flatMap] at hfields
  exact hfields.bind (hmethods.value _)

end Features

/-! ## The whole pass -/

section Pass

variable (m : Model) (c : ClassDef)

/-- The notes at the end account for all mentions. -/
theorem account_noted : ((c.noted m).run {}).2.Account (c.mentions m) :=
  (noting_class m c {} [] .empty).2

variable (s : Settings) (project : String)

/-- The sheet has what the features of the class are by themselves, and the notes at the end. -/
theorem ClassSheet.make_eq :
    ClassSheet.make m s project c =
      { className := c.name
        variableName := Naming.variableName c.name
        routeSegment := Naming.routeSegment c.name
        pluralLabel := Naming.pluralLabel c.name
        tableName := Naming.tableName c.name
        componentName := Naming.componentName c.name
        basePackage := s.basePackage project
        frontendOrigin := s.frontendOrigin
        apiBaseUrl := s.frontend.apiBaseUrl
        imports := c.imports m
        hasRelations := (c.attributes.map (FieldSheet.ofSlot m)).any (·.isEntity)
        fields := c.attributes.map (.ofSlot m)
        methods := c.methods.map (.ofMethod m)
        emptyForm := emptyFormLiteral (c.attributes.map (.ofSlot m))
        unresolved := c.unresolved m } := by
  have hpass : (c.noted m).run {} =
      ((c.attributes.map (.ofSlot m), c.methods.map (.ofMethod m)), ((c.noted m).run {}).2) :=
    Prod.ext (noting_class m c {} [] .empty).1 rfl
  rw [ClassSheet.make, hpass]
  rfl

theorem fields_make : (ClassSheet.make m s project c).fields = c.attributes.map (.ofSlot m) := by
  rw [ClassSheet.make_eq]

theorem emptyForm_make : (ClassSheet.make m s project c).emptyForm =
    emptyFormLiteral (ClassSheet.make m s project c).fields := by
  rw [ClassSheet.make_eq]

theorem imports_make : (ClassSheet.make m s project c).imports = c.imports m := rfl

theorem unresolved_make : (ClassSheet.make m s project c).unresolved = c.unresolved m := rfl

end Pass

end CrudStack
