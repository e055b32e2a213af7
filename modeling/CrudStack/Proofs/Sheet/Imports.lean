/-
# `CrudStack.Proofs.Sheet.Imports` — the imports of a class

The imports of a class are put together from the types that its features mention.  Whatever these
are, the imports are among three (`mem_imports`), and they are in increasing order, so that none is
there twice (`sorted_imports`, `nodup_imports`).
-/
import CrudStack.Proofs.Sheet.Noted
import Mathlib.Data.List.Nodup

namespace CrudStack

/-! ## Where imports come from -/

/-- The types that can be imported for a feature. -/
def importedTypes : List String :=
  ["java.math.BigDecimal", "java.time.LocalDate", "java.time.LocalDateTime"]

theorem mem_importedTypes {p : Primitive} {n : String} (h : p.java.2 = some n) :
    n ∈ importedTypes := by
  cases p <;> simp_all [Primitive.java, importedTypes]

/-- What is imported for a type is imported for a primitive. -/
theorem importName_resolve {m : Model} {t n : String}
    (h : (m.resolve t .springBoot).importName = some n) : n ∈ importedTypes := by
  unfold Model.resolve at h
  split at h
  · cases h
  · split at h
    · cases h
    · cases h
    · exact mem_importedTypes h

theorem importName_resolveReturn {m : Model} {t n : String}
    (h : (m.resolveReturn t .springBoot).importName = some n) : n ∈ importedTypes := by
  unfold Model.resolveReturn at h
  split at h
  · cases h
  · split at h
    · cases h
    · exact mem_importedTypes h

theorem importName_slot {m : Model} {slot : Slot} {n : String}
    (h : (Mention.ofSlot m slot).target.importName = some n) : n ∈ importedTypes :=
  importName_resolve (show (m.resolve slot.typeName .springBoot).importName = some n from h)

theorem importName_return {m : Model} {method : Method} {n : String}
    (h : (Mention.ofReturn m method).target.importName = some n) : n ∈ importedTypes :=
  importName_resolveReturn
    (show (m.resolveReturn method.returnType .springBoot).importName = some n from h)

/-- The types that a class mentions are those of its attributes, and of each method what it returns
and what its parameters take. -/
theorem mem_mentions {m : Model} {c : ClassDef} {mention : Mention} :
    mention ∈ c.mentions m ↔ (∃ a ∈ c.attributes, mention = .ofSlot m a) ∨
      ∃ method ∈ c.methods, mention = .ofReturn m method ∨
        ∃ p ∈ method.parameters, mention = .ofSlot m p := by
  simp only [ClassDef.mentions, Mention.ofMethod, List.mem_append, List.mem_map, List.mem_flatMap,
    List.mem_cons, eq_comm]

theorem importName_mention {m : Model} {c : ClassDef} {mention : Mention} {n : String}
    (h : mention ∈ c.mentions m) (hname : mention.target.importName = some n) :
    n ∈ importedTypes := by
  rcases mem_mentions.mp h with ⟨slot, -, rfl⟩ | ⟨method, -, rfl | ⟨slot, -, rfl⟩⟩
  · exact importName_slot hname
  · exact importName_return hname
  · exact importName_slot hname

/-! ## The imports of a class -/

section Imports

variable {c : ClassDef} {m : Model}

/-- What is imported is what some type that the class mentions is imported by. -/
theorem mem_imports_iff {n : String} :
    n ∈ c.imports m ↔ ∃ mention ∈ c.mentions m, mention.target.importName = some n :=
  (account_noted m c).imported n

theorem mem_imports {n : String} (h : n ∈ c.imports m) : n ∈ importedTypes := by
  obtain ⟨mention, hmention, hname⟩ := mem_imports_iff.mp h
  exact importName_mention hmention hname

theorem sorted_imports : (c.imports m).Pairwise (· < ·) := (account_noted m c).sorted

theorem nodup_imports : (c.imports m).Nodup := sorted_imports.imp ne_of_lt

end Imports

end CrudStack
