/-
# `CrudStack.Proofs.Plan.ByKind` — the files of a plan, kind by kind

A kind belongs to the project or to the classes, never to both, and occurs once in its list.  Hence
the files of a kind are one file, or one file for every class that is not passed over
(`filesOf_projectKind`, `filesOf_classKind`).  The same goes for the entries of the classes: there
is one for every class and kind, in order, and it is a file or a skip.
-/
import CrudStack.Proofs.Plan.Total
import Mathlib.Data.List.Nodup

namespace CrudStack

/-- The files of a kind, in the order of the plan. -/
def Plan.filesOf (p : Plan) (kind : ArtifactKind) : List PlannedFile :=
  p.files.filter fun f => f.kind == kind

namespace Job

/-! ## The two lists of kinds -/

theorem nodup_projectKinds (mode : Mode) : mode.projectKinds.Nodup := by
  cases mode <;> decide

theorem nodup_classKinds (mode : Mode) : mode.classKinds.Nodup := by
  cases mode <;> decide

theorem not_mem_classKinds {mode : Mode} {kind : ArtifactKind} (h : kind ∈ mode.projectKinds) :
    kind ∉ mode.classKinds := by
  revert kind
  cases mode <;> decide

/-! ## Files and skips -/

theorem filterMap_ite {α β : Type} (p : α → Bool) (f : α → β) (l : List α) :
    (l.filterMap fun a => if p a then some (f a) else none) = (l.filter p).map f := by
  rw [← List.filterMap_filter, List.filterMap_eq_map']

theorem files_classEntries (j : Job) (c : ClassDef) (kinds : List ArtifactKind) :
    (Plan.mk (kinds.map (j.classEntry c))).files =
      (kinds.filter fun kind => !skips c kind).map (j.classFile c) := by
  rw [Plan.files, List.filterMap_map, ← filterMap_ite]
  congr 1
  funext kind
  by_cases h : skips c kind = true
  · simp [classEntry, h]
  · simp [classEntry, h]

theorem skips_classEntries (j : Job) (c : ClassDef) (kinds : List ArtifactKind) :
    (Plan.mk (kinds.map (j.classEntry c))).skips =
      (kinds.filter (skips c)).map (j.classSkip c) := by
  rw [Plan.skips, List.filterMap_map, ← filterMap_ite]
  congr 1
  funext kind
  by_cases h : skips c kind = true
  · simp [classEntry, h]
  · simp [classEntry, h]

theorem files_fullPlan (j : Job) :
    j.fullPlan.files = j.mode.projectKinds.map j.projectFile ++
      j.model.classes.flatMap fun c =>
        (j.mode.classKinds.filter fun kind => !skips c kind).map (j.classFile c) := by
  have hclass := fun c => files_classEntries j c j.mode.classKinds
  simp only [Plan.files] at hclass
  simp only [Plan.files, fullPlan, List.filterMap_append, List.filterMap_flatMap, hclass,
    List.filterMap_map]
  rw [← List.filterMap_eq_map]
  rfl

theorem skips_fullPlan (j : Job) :
    j.fullPlan.skips = j.model.classes.flatMap fun c =>
      (j.mode.classKinds.filter (skips c)).map (j.classSkip c) := by
  have hclass := fun c => skips_classEntries j c j.mode.classKinds
  simp only [Plan.skips] at hclass
  simp [Plan.skips, fullPlan, List.filterMap_flatMap, hclass, List.filterMap_map]

/-! ## The files of one kind -/

theorem filter_map_projectFile (j : Job) (kinds : List ArtifactKind) (kind : ArtifactKind) :
    (kinds.map j.projectFile).filter (fun f => f.kind == kind) =
      List.replicate (kinds.count kind) (j.projectFile kind) := by
  rw [List.filter_map]
  show (kinds.filter (· == kind)).map j.projectFile = _
  rw [List.filter_beq, List.map_replicate]

theorem filter_map_classFile (j : Job) (c : ClassDef) (kinds : List ArtifactKind)
    (kind : ArtifactKind) :
    (kinds.map (j.classFile c)).filter (fun f => f.kind == kind) =
      List.replicate (kinds.count kind) (j.classFile c kind) := by
  rw [List.filter_map]
  show (kinds.filter (· == kind)).map (j.classFile c) = _
  rw [List.filter_beq, List.map_replicate]

theorem filesOf_projectKind (j : Job) {kind : ArtifactKind} (h : kind ∈ j.mode.projectKinds) :
    j.fullPlan.filesOf kind = [j.projectFile kind] := by
  have hone : j.mode.projectKinds.count kind = 1 :=
    List.count_eq_one_of_mem (nodup_projectKinds j.mode) h
  have hzero : ∀ c, (j.mode.classKinds.filter fun k => !skips c k).count kind = 0 := by
    intro c
    refine List.count_eq_zero_of_not_mem fun hmem => ?_
    exact not_mem_classKinds h ((List.mem_filter.mp hmem).1)
  rw [Plan.filesOf, files_fullPlan, List.filter_append, List.filter_flatMap,
    filter_map_projectFile, hone]
  simp [filter_map_classFile, hzero]

theorem filesOf_classKind (j : Job) {kind : ArtifactKind} (h : kind ∈ j.mode.classKinds) :
    j.fullPlan.filesOf kind =
      (j.model.classes.filter fun c => !skips c kind).map fun c => j.classFile c kind := by
  have hzero : j.mode.projectKinds.count kind = 0 :=
    List.count_eq_zero_of_not_mem fun hmem => not_mem_classKinds hmem h
  have hone : j.mode.classKinds.count kind = 1 :=
    List.count_eq_one_of_mem (nodup_classKinds j.mode) h
  rw [Plan.filesOf, files_fullPlan, List.filter_append, List.filter_flatMap,
    filter_map_projectFile, hzero]
  simp only [filter_map_classFile, List.replicate_zero, List.nil_append]
  induction j.model.classes with
  | nil => rfl
  | cons c cs ih =>
      rw [List.flatMap_cons, ih]
      by_cases hs : skips c kind = true
      · have hnone : (j.mode.classKinds.filter fun k => !skips c k).count kind = 0 :=
          List.count_eq_zero_of_not_mem fun hmem => by simp [hs] at hmem
        simp [hs, hnone]
      · have hsome : (j.mode.classKinds.filter fun k => !skips c k).count kind = 1 := by
          rw [List.count_filter (by simp [hs]), hone]
        simp [hs, hsome]

end Job

end CrudStack
