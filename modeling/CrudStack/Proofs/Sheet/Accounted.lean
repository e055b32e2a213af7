/-
# `CrudStack.Proofs.Sheet.Accounted` — every type that a class mentions is accounted for

The attributes of a class, what its methods return and what their parameters take have types.  A
type that is to be imported is among the imports of the class, and nothing else is; a type name that
nothing explains is reported, as often as it is there and in this order: the attributes, then method
by method the return type and the parameters.  What a run warns about are these reports, class by
class, wherever the run ends (`types_accounted`).
-/
import CrudStack.Proofs.Run.Record
import CrudStack.Proofs.Sheet.Imports

namespace CrudStack

/-! ## Type names that nothing explains -/

namespace Model

/-- Whether nothing explains the type name of a value. -/
def isUnknown (m : Model) (t : String) : Bool := (m.resolve t .springBoot).resolution == .fallback

/-- Whether nothing explains a return type. -/
def isUnknownReturn (m : Model) (t : String) : Bool :=
  (m.resolveReturn t .springBoot).resolution == .fallback

end Model

/-- The type names of values that nothing explains. -/
def unknownOf (m : Model) (slots : List Slot) : List String :=
  (slots.map (·.typeName)).filter m.isUnknown

/-- The type names of a method that nothing explains. -/
def unknownIn (m : Model) (method : Method) : List String :=
  [method.returnType].filter m.isUnknownReturn ++ unknownOf m method.parameters

/-- The type names of a class that nothing explains: those of the attributes, then method by
method. -/
def ClassDef.unknown (c : ClassDef) (m : Model) : List String :=
  unknownOf m c.attributes ++ c.methods.flatMap (unknownIn m)

/-- The type names of a model that nothing explains, each with the class that mentions it. -/
def Model.unknownNames (m : Model) : List (String × String) :=
  m.classes.flatMap fun c => (c.unknown m).map fun t => (c.name, t)

section Unresolved

variable (m : Model)

theorem unresolved_slots (slots : List Slot) :
    ((slots.map (Mention.ofSlot m)).filter (·.target.resolution == .fallback)).map (·.typeName) =
      unknownOf m slots := by
  rw [unknownOf, List.filter_map, List.filter_map, List.map_map]
  rfl

theorem unresolved_method (method : Method) :
    ((Mention.ofMethod m method).filter (·.target.resolution == .fallback)).map (·.typeName) =
      unknownIn m method := by
  have hreturn : [Mention.ofReturn m method] =
      [method.returnType].map fun t => ⟨t, m.resolveReturn t .springBoot⟩ := rfl
  rw [unknownIn, ← unresolved_slots, Mention.ofMethod, ← List.singleton_append, List.filter_append,
    List.map_append, hreturn, List.filter_map, List.map_map]
  congr 1
  exact List.map_id _

/-- The pass over a class keeps just these names, in this order. -/
theorem unresolved_eq (c : ClassDef) : c.unresolved m = c.unknown m := by
  rw [ClassDef.unresolved, (account_noted m c).unresolved, ClassDef.mentions, List.filter_append,
    List.map_append, unresolved_slots, List.filter_flatMap, List.map_flatMap]
  simp only [unresolved_method]
  rfl

end Unresolved

/-! ## Warnings -/

/-- The class and the type name that an event warns of. -/
def Event.unknown? : Event → Option (String × String)
  | .unknownType className typeName => some (className, typeName)
  | _ => none

/-- What the planning of the classes reports, one after the other. -/
theorem reports_eq (j : Job) :
    j.reports = j.model.unknownNames.map fun n => .unknownType n.1 n.2 := by
  have hclass : ∀ c, (j.classSheet c).unresolved = c.unknown j.model := fun c =>
    (unresolved_make j.model c j.settings j.project).trans (unresolved_eq j.model c)
  rw [Job.reports, Model.unknownNames, List.map_flatMap]
  simp only [hclass, List.map_map]
  rfl

theorem unknown?_before (j : Job) : j.before.filterMap Event.unknown? = j.model.unknownNames := by
  have hopening : j.opening.filterMap Event.unknown? = [] := by
    rw [List.filterMap_eq_nil_iff]
    intro e he
    rcases List.mem_cons.mp he with rfl | he
    · rfl
    · obtain ⟨d, -, rfl⟩ := List.mem_map.mp he
      rfl
  rw [Job.before, List.filterMap_append, hopening, List.nil_append, Job.warnings_eq_reports,
    reports_eq, List.filterMap_map]
  exact List.filterMap_some

theorem unknown?_events (root : Path) (entries : List PlanEntry) :
    (entries.flatMap (PlanEntry.events root)).filterMap Event.unknown? = [] := by
  rw [List.filterMap_flatMap, List.flatMap_eq_nil_iff]
  intro e _
  cases e <;> rfl

/-- However far a run comes, it has warned of all unknown type names before. -/
theorem unknown?_run (j : Job) (destination : Path) (d : Disk) :
    (j.run destination d).trace.filterMap Event.unknown? = j.model.unknownNames := by
  obtain ⟨done, h⟩ := j.perform_reached j.entries_fullPlan_ne_nil destination d
  rw [j.filterMap_trace destination d fun _ _ _ => rfl, unknown?_before, h.trace, unknown?_events,
    List.append_nil]

/-! ## Classes and models -/

/-- The sheet of a class has the imports of all types that the class mentions, and its report has
all type names that nothing explains. -/
structure Accounted (m : Model) (s : Settings) (project : String) (c : ClassDef) : Prop where
  /-- The imports are in increasing order, so that none is there twice. -/
  sorted : (ClassSheet.make m s project c).imports.Pairwise (· < ·)
  /-- What is imported is what some attribute, return type or parameter is imported by. -/
  imported : ∀ name, name ∈ (ClassSheet.make m s project c).imports ↔
    (∃ a ∈ c.attributes, (m.resolve a.typeName .springBoot).importName = some name) ∨
    ∃ method ∈ c.methods,
      (m.resolveReturn method.returnType .springBoot).importName = some name ∨
        ∃ p ∈ method.parameters, (m.resolve p.typeName .springBoot).importName = some name
  /-- The attributes come first, then method by method the return type and the parameters. -/
  unresolved : (ClassSheet.make m s project c).unresolved =
    unknownOf m c.attributes ++ c.methods.flatMap (unknownIn m)

theorem accounted (m : Model) (s : Settings) (project : String) (c : ClassDef) :
    Accounted m s project c := by
  refine ⟨sorted_imports, ?_, (unresolved_make m c s project).trans (unresolved_eq m c)⟩
  intro name
  rw [imports_make, mem_imports_iff]
  constructor
  · rintro ⟨mention, hmention, hname⟩
    rcases mem_mentions.mp hmention with ⟨a, ha, rfl⟩ | ⟨method, hmethod, rfl | ⟨p, hp, rfl⟩⟩
    · exact .inl ⟨a, ha, hname⟩
    · exact .inr ⟨method, hmethod, .inl hname⟩
    · exact .inr ⟨method, hmethod, .inr ⟨p, hp, hname⟩⟩
  · rintro (⟨a, ha, hname⟩ | ⟨method, hmethod, hname | ⟨p, hp, hname⟩⟩)
    · exact ⟨.ofSlot m a, mem_mentions.mpr (.inl ⟨a, ha, rfl⟩), hname⟩
    · exact ⟨.ofReturn m method, mem_mentions.mpr (.inr ⟨method, hmethod, .inl rfl⟩), hname⟩
    · exact ⟨.ofSlot m p, mem_mentions.mpr (.inr ⟨method, hmethod, .inr ⟨p, hp, rfl⟩⟩), hname⟩

/-- No type that a class mentions is lost: what is to be imported for it is imported, what nothing
explains is reported, and nothing else is.  Planning never fails for it, and planning and run warn
of just what was reported, class by class in the order of the model, whatever becomes of the run. -/
theorem types_accounted (m : Model) (s : Settings) (mode : Mode) (project : String) :
    (∀ c, Accounted m s project c) ∧
    (∃ p, (Job.mk m s mode project).planned =
      (.ok p, m.unknownNames.map fun n => .unknownType n.1 n.2)) ∧
    ∀ destination d,
      ((Job.mk m s mode project).run destination d).trace.filterMap Event.unknown? =
        m.unknownNames := by
  refine ⟨accounted m s project, ⟨Job.fullPlan ⟨m, s, mode, project⟩, ?_⟩,
    unknown?_run ⟨m, s, mode, project⟩⟩
  exact (Job.planned_eq ⟨m, s, mode, project⟩).trans
    (congrArg (Prod.mk _) (reports_eq ⟨m, s, mode, project⟩))

/-- A type name is reported as often as it is mentioned, and `void` where nothing is returned. -/
example :
    let c : ClassDef := ⟨"Lamp", [.method ⟨"toggle", "void", [⟨"by", "Blob"⟩, ⟨"at", "date"⟩]⟩,
      .attr ⟨"glow", "VOID"⟩, .attr ⟨"since", "Date"⟩, .attr ⟨"kind", "Blob"⟩]⟩
    c.unresolved ⟨[c]⟩ = ["VOID", "Blob", "Blob"] ∧ c.imports ⟨[c]⟩ = ["java.time.LocalDate"] := by
  decide +kernel

end CrudStack
