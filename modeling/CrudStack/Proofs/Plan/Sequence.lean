/-
# `CrudStack.Proofs.Plan.Sequence` — what a plan lists, and in which order

A job always has a plan, and the sequence of its entries depends on very little: the mode, the names
of the classes, and which of them have attributes.  `jobLabels` writes that sequence down, kind by
kind and class by class, without a look at templates, sheets or paths.

Main statement: planning succeeds, its entries are labelled in that order, and their numbers follow
(`plan_sequence`).  A plan is counted by its labels: a file is a label that is written, a skip one
that is not.
-/
import CrudStack.Proofs.Plan.Total

namespace CrudStack

/-- What an entry is about: whether it is a file, its kind, and its class if it has one. -/
structure EntryLabel where
  written : Bool
  kind : ArtifactKind
  className : Option String
  deriving DecidableEq, Repr

/-- The label of an entry. -/
def PlanEntry.label : PlanEntry → EntryLabel
  | .file f => ⟨true, f.kind, f.className⟩
  | .skip s => ⟨false, s.kind, some s.className⟩

/-- The labels of a plan, in order. -/
def Plan.labels (p : Plan) : List EntryLabel := p.entries.map PlanEntry.label

/-! ## The sequence -/

/-- The label of a file that a project has once. -/
def projectLabel (kind : ArtifactKind) : EntryLabel := ⟨true, kind, none⟩

/-- The labels of the files that a project has once. -/
def projectLabels : Mode → List EntryLabel
  | .backend =>
    [projectLabel .buildDescriptor, projectLabel .runtimeConfig, projectLabel .entryPoint,
     projectLabel .notFoundError]
  | .frontend =>
    [projectLabel .buildDescriptor, projectLabel .hostPage, projectLabel .bundlerConfig,
     projectLabel .runtimeConfig, projectLabel .shell, projectLabel .bootstrap,
     projectLabel .router]

/-- The labels of a class: four files in a backend; in a frontend a component, which is a file just
if the class has attributes. -/
def classLabels (mode : Mode) (c : ClassDef) : List EntryLabel :=
  match mode with
  | .backend =>
    [⟨true, .entity, some c.name⟩, ⟨true, .repository, some c.name⟩,
     ⟨true, .service, some c.name⟩, ⟨true, .controller, some c.name⟩]
  | .frontend => [⟨c.hasAttributes, .component, some c.name⟩]

/-- The labels of a whole generation. -/
def jobLabels (j : Job) : List EntryLabel :=
  projectLabels j.mode ++ j.model.classes.flatMap (classLabels j.mode)

/-! ## Labels of the full plan -/

theorem label_classEntry (j : Job) (c : ClassDef) (kind : ArtifactKind) :
    (j.classEntry c kind).label = ⟨!Job.skips c kind, kind, some c.name⟩ := by
  unfold Job.classEntry
  cases hskips : Job.skips c kind <;> rfl

theorem labels_classEntries (j : Job) (c : ClassDef) :
    (j.mode.classKinds.map (j.classEntry c)).map PlanEntry.label = classLabels j.mode c := by
  have hlabel : PlanEntry.label ∘ j.classEntry c =
      fun kind => ⟨!Job.skips c kind, kind, some c.name⟩ :=
    funext fun kind => label_classEntry j c kind
  rw [List.map_map, hlabel]
  cases j.mode with
  | backend => rfl
  | frontend => simp [Mode.classKinds, classLabels, Job.skips]

theorem labels_fullPlan (j : Job) : j.fullPlan.labels = jobLabels j := by
  have hproject : (j.mode.projectKinds.map fun kind => PlanEntry.file (j.projectFile kind)).map
      PlanEntry.label = projectLabels j.mode := by
    rw [List.map_map]
    cases j.mode <;> rfl
  simp only [Plan.labels, Job.fullPlan, jobLabels, List.map_append, List.map_flatMap, hproject,
    labels_classEntries]

/-! ## Counting -/

theorem length_files (p : Plan) : p.files.length = p.labels.countP (·.written) := by
  rw [Plan.files, Plan.labels, List.countP_map, List.length_filterMap_eq_countP]
  refine List.countP_congr fun entry _ => ?_
  cases entry <;> simp [PlanEntry.label]

theorem length_skips (p : Plan) : p.skips.length = p.labels.countP (!·.written) := by
  rw [Plan.skips, Plan.labels, List.countP_map, List.length_filterMap_eq_countP]
  refine List.countP_congr fun entry _ => ?_
  cases entry <;> simp [PlanEntry.label]

/-- In a backend all classes have as many labels of a sort. -/
theorem countP_backend (p : EntryLabel → Bool) (classes : List ClassDef) {n : Nat}
    (h : ∀ c, (classLabels .backend c).countP p = n) :
    (classes.flatMap (classLabels .backend)).countP p = n * classes.length := by
  have hconst : List.countP p ∘ classLabels .backend = fun _ => n := funext h
  rw [List.countP_flatMap, hconst, List.map_const', List.sum_replicate_nat, Nat.mul_comm]

/-- In a frontend every class has one label. -/
theorem countP_frontend (p : EntryLabel → Bool) (classes : List ClassDef) :
    (classes.flatMap (classLabels .frontend)).countP p =
      classes.countP fun c => p ⟨c.hasAttributes, .component, some c.name⟩ := by
  have hone : classLabels .frontend =
      fun c => [⟨c.hasAttributes, .component, some c.name⟩] := rfl
  rw [hone, ← List.map_eq_flatMap, List.countP_map]
  rfl

theorem counts_fullPlan_backend {j : Job} (h : j.mode = .backend) :
    j.fullPlan.files.length = 4 + 4 * j.model.classes.length ∧ j.fullPlan.skips.length = 0 := by
  refine ⟨?_, ?_⟩
  · rw [length_files, labels_fullPlan, jobLabels, List.countP_append, h,
      countP_backend _ _ fun _ => rfl]
    rfl
  · rw [length_skips, labels_fullPlan, jobLabels, List.countP_append, h,
      countP_backend _ _ fun _ => rfl, Nat.zero_mul]
    rfl

theorem counts_fullPlan_frontend {j : Job} (h : j.mode = .frontend) :
    j.fullPlan.files.length = 7 + j.model.classes.countP ClassDef.hasAttributes ∧
      j.fullPlan.skips.length =
        j.model.classes.length - j.model.classes.countP ClassDef.hasAttributes := by
  refine ⟨?_, ?_⟩
  · rw [length_files, labels_fullPlan, jobLabels, List.countP_append, h, countP_frontend]
    rfl
  · have hall : j.model.classes.length = j.model.classes.countP ClassDef.hasAttributes +
        j.model.classes.countP fun c => !c.hasAttributes := by
      simpa using List.length_eq_countP_add_countP ClassDef.hasAttributes
    have hnone : (projectLabels .frontend).countP (!·.written) = 0 := rfl
    rw [length_skips, labels_fullPlan, jobLabels, List.countP_append, h, countP_frontend, hnone]
    show 0 + (j.model.classes.countP fun c => !c.hasAttributes) = _
    omega

/-- Planning always succeeds, and the plan is, in order: the files of the project, then for every
class its files, or its component or the skip of it. -/
theorem plan_sequence (j : Job) :
    ∃ p, j.plan = .ok p ∧ p.labels = jobLabels j ∧
      match j.mode with
      | .backend => p.files.length = 4 + 4 * j.model.classes.length ∧ p.skips.length = 0
      | .frontend =>
        p.files.length = 7 + j.model.classes.countP ClassDef.hasAttributes ∧
          p.skips.length =
            j.model.classes.length - j.model.classes.countP ClassDef.hasAttributes := by
  refine ⟨j.fullPlan, j.plan_eq_ok, labels_fullPlan j, ?_⟩
  split
  · exact counts_fullPlan_backend ‹_›
  · exact counts_fullPlan_frontend ‹_›

end CrudStack
