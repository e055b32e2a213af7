/-
# `CrudStack.Proofs.Plan.Total` — every job has a plan, and this is it

Planning can fail in a template, when it is compiled or when it is rendered, or for want of a file
name.  But the templates are plain, none of them asks for more than its sheet has, and every kind of
a project has its name.  So planning never fails, and `Job.fullPlan` says what it gives: the files
of the project in the order of their kinds, then class by class one entry per kind (`plan_eq_ok`).
Contents are the lines of the templates, so what is to be said about a generated text is said about
lines.

A part of planning also reports.  What it gives and what it adds to the reports is put together from
its own parts (`Planning.Gives`), down to the entries, which report nothing, and to the single
reports.

The shapes of the two sheets are written down once.  That a template fits is a computation over the
sixteen templates, and no proof below looks at their texts.
-/
import CrudStack.Plan
import CrudStack.Proofs.Template.Registered
import CrudStack.Proofs.Template.Shape

namespace CrudStack

open Template

/-! ## The shapes of the sheets -/

/-- Names that stand for single values. -/
def values (names : List String) : List (String × Shape) := names.map fun n => (n, .value)

/-- What a repetition over links finds. -/
def linkShape : Shape :=
  .table (values ["class_name", "route_segment", "plural_label", "component_name"])

/-- What a repetition over fields finds. -/
def fieldShape : Shape :=
  .table
    (values ["name", "capitalized", "label", "java_type"] ++ [("is_entity", .flag)] ++
     values ["input_type"] ++ [("is_checkbox", .flag)] ++
     values ["model_modifier", "default_value"])

/-- What a repetition over methods finds. -/
def methodShape : Shape := .table (values ["name", "return_type", "parameters"])

/-- What the files of a project find. -/
def projectShape : Shape :=
  .table
    (values ["project_name", "artifact_id", "group_id", "base_package", "application_class",
      "java_version", "spring_boot_version", "server_port"] ++ [("is_postgres", .flag)] ++
     values ["datasource_url", "datasource_driver", "datasource_username", "datasource_password",
      "api_base_url", "dev_port", "frontend_origin", "title"] ++
    [("classes", .list linkShape)])

/-- What the files of a class find. -/
def classShape : Shape :=
  .table
    (values ["class_name", "variable", "route_segment", "plural_label", "table_name",
      "component_name", "base_package", "frontend_origin", "api_base_url"] ++
    [("imports", .list .value), ("has_relations", .flag), ("fields", .list fieldShape),
     ("methods", .list methodShape), ("empty_form", .value)])

theorem conforms_link (l : LinkEntry) : Conforms linkShape l.data := by
  simp [linkShape, values, LinkEntry.data, Conforms, ConformsEntries]

theorem conforms_field (f : FieldSheet) : Conforms fieldShape f.data := by
  simp [fieldShape, values, FieldSheet.data, Conforms, ConformsEntries]

theorem conforms_method (m : MethodSheet) : Conforms methodShape m.data := by
  simp [methodShape, values, MethodSheet.data, Conforms, ConformsEntries]

theorem conforms_projectSheet (p : ProjectSheet) : Conforms projectShape p.data := by
  have hlinks : ∀ l ∈ p.links, Conforms linkShape l.data := fun l _ => conforms_link l
  simpa [projectShape, values, ProjectSheet.data, Conforms, ConformsEntries] using hlinks

theorem conforms_classSheet (c : ClassSheet) : Conforms classShape c.data := by
  have hfields : ∀ f ∈ c.fields, Conforms fieldShape f.data := fun f _ => conforms_field f
  have hmethods : ∀ m ∈ c.methods, Conforms methodShape m.data := fun m _ => conforms_method m
  simpa [classShape, values, ClassSheet.data, Conforms, ConformsEntries]
    using ⟨hfields, hmethods⟩

/-! ## Contents as lines -/

/-- The lines of the artifact of a kind for data. -/
def Template.linesOf (mode : Mode) (kind : ArtifactKind) (data : Document) : List String :=
  match ofKind? mode kind with
  | some t => t.expand data
  | none => []

theorem Template.linesOf_eq {mode : Mode} {kind : ArtifactKind} {t : Template}
    (h : ofKind? mode kind = some t) (data : Document) :
    linesOf mode kind data = t.expand data := by
  unfold linesOf
  rw [h]

/-- Whether the template of a kind is there and fits a shape. -/
def Template.fitsKind (mode : Mode) (shape : Shape) (kind : ArtifactKind) : Bool :=
  match ofKind? mode kind with
  | some t => fitsAll shape t.blocks
  | none => false

theorem Template.renderByLine_eq_ok {mode : Mode} {kind : ArtifactKind} {shape : Shape}
    {data : Document} (hfit : fitsKind mode shape kind = true) (h : Conforms shape data) :
    renderByLine mode kind data = .ok (joinLines (linesOf mode kind data)) := by
  unfold fitsKind at hfit
  unfold renderByLine linesOf
  cases ht : ofKind? mode kind with
  | none => simp [ht] at hfit
  | some t =>
      rw [ht] at hfit
      simp only [render_eq_ok (suppliesAll_of_fits t.blocks h hfit)]
      rfl

theorem fits_projectKinds (mode : Mode) :
    mode.projectKinds.all (fitsKind mode projectShape) = true := by
  cases mode <;> decide +kernel

theorem fits_classKinds (mode : Mode) :
    mode.classKinds.all (fitsKind mode classShape) = true := by
  cases mode <;> decide +kernel

/-! ## Parts of planning -/

namespace Planning

/-- A part of planning gives a value and adds reports to what was reported before. -/
def Gives {α : Type} (part : Planning α) (value : α) (reports : List Event) : Prop :=
  ∀ before, part.run.run before = (.ok value, before ++ reports)

section Parts

variable {α β : Type}

theorem gives_report (e : Event) : (report e).Gives () [e] := fun _ => rfl

theorem gives_ok {result : Except RenderError α} {value : α} (h : result = .ok value) :
    Gives (liftExcept result) value [] := fun before => by
  rw [h, List.append_nil]
  rfl

theorem Gives.pure (value : α) : Gives (Pure.pure value) value [] := fun before =>
  congrArg (Prod.mk _) (List.append_nil before).symm

theorem Gives.bind {part : Planning α} {rest : α → Planning β} {a : α} {b : β}
    {first second : List Event} (hpart : Gives part a first) (hrest : Gives (rest a) b second) :
    Gives (part >>= rest) b (first ++ second) := by
  intro before
  have hstep : (part >>= rest).run.run before = (rest a).run.run (before ++ first) := by
    rw [ExceptT.run_bind, StateT.run_bind, hpart before]
    rfl
  rw [hstep, hrest, List.append_assoc]

theorem Gives.value {part : Planning α} {a : α} {reports : List Event}
    (h : Gives part a reports) (f : α → β) :
    Gives (part >>= fun a => Pure.pure (f a)) (f a) reports :=
  List.append_nil reports ▸ h.bind (.pure (f a))

theorem Gives.mapM {part : α → Planning β} {value : α → β} {reports : α → List Event} :
    ∀ {xs : List α}, (∀ x ∈ xs, Gives (part x) (value x) (reports x)) →
      Gives (xs.mapM part) (xs.map value) (xs.flatMap reports)
  | [], _ => by
      rw [List.mapM_nil]
      exact .pure []
  | x :: xs, h => by
      have hrest := Gives.mapM fun y hy => h y (List.mem_cons_of_mem x hy)
      rw [List.mapM_cons, List.flatMap_cons]
      exact (h x List.mem_cons_self).bind (hrest.value (value x :: ·))

theorem gives_forM {event : α → Event} : ∀ xs : List α,
    Gives (xs.forM fun x => report (event x)) () (xs.map event)
  | [] => .pure ()
  | x :: xs => (gives_report (event x)).bind (gives_forM xs)

end Parts

end Planning

namespace Job

/-! ## The plan -/

/-- The lines of a file that the project has once. -/
def projectLines (j : Job) (kind : ArtifactKind) : List String :=
  linesOf j.mode kind j.projectSheet.data

/-- The lines of a file of a class. -/
def classLines (j : Job) (c : ClassDef) (kind : ArtifactKind) : List String :=
  linesOf j.mode kind (j.classSheet c).data

/-- The name of a file that the project has once. -/
def projectFileName (j : Job) (kind : ArtifactKind) : String := (j.projectFileName? kind).getD ""

theorem projectFileName?_eq (j : Job) {kind : ArtifactKind} (h : kind ∈ j.mode.projectKinds) :
    j.projectFileName? kind = some (j.projectFileName kind) := by
  obtain ⟨_, _, mode, _⟩ := j
  cases mode <;> cases kind <;> first | rfl | simp [Mode.projectKinds] at h

/-- A file that the project has once. -/
def projectFile (j : Job) (kind : ArtifactKind) : PlannedFile :=
  { kind
    className := none
    path := j.relativePath kind (j.projectFileName kind)
    content := joinLines (j.projectLines kind)
    description := j.mode.label ++ " " ++ kind.label }

/-- A file of a class. -/
def classFile (j : Job) (c : ClassDef) (kind : ArtifactKind) : PlannedFile :=
  { kind
    className := some c.name
    path := j.relativePath kind (classFileName c.name kind)
    content := joinLines (j.classLines c kind)
    description := c.name ++ " " ++ kind.label }

/-- What is said of a file that a class does not get. -/
def classSkip (j : Job) (c : ClassDef) (kind : ArtifactKind) : PlannedSkip :=
  { kind
    className := c.name
    path := j.relativePath kind (classFileName c.name kind)
    reason := "class " ++ c.name ++ " declares no attributes" }

/-- The entry of a class for a kind. -/
def classEntry (j : Job) (c : ClassDef) (kind : ArtifactKind) : PlanEntry :=
  if skips c kind then .skip (j.classSkip c kind) else .file (j.classFile c kind)

/-- The files of the project, then the entries of every class. -/
def fullPlan (j : Job) : Plan :=
  ⟨j.mode.projectKinds.map (fun kind => .file (j.projectFile kind)) ++
    j.model.classes.flatMap fun c => j.mode.classKinds.map (j.classEntry c)⟩

/-- What planning reports: for every class the type names that its sheet leaves unexplained. -/
def reports (j : Job) : List Event :=
  j.model.classes.flatMap fun c => (j.classSheet c).unresolved.map (.unknownType c.name)

section Templates

variable (j : Job) {templates : Registry}
  (htemplates : ∀ kind data, templates.render kind data = renderByLine j.mode kind data)

include htemplates

theorem planProjectFile_eq_ok {kind : ArtifactKind} (h : kind ∈ j.mode.projectKinds) :
    j.planProjectFile templates kind = .ok (.file (j.projectFile kind)) := by
  have hfit := List.all_eq_true.mp (fits_projectKinds j.mode) kind h
  rw [planProjectFile, j.projectFileName?_eq h, htemplates,
    renderByLine_eq_ok hfit (conforms_projectSheet j.projectSheet)]
  rfl

theorem planClassEntry_eq_ok (c : ClassDef) {kind : ArtifactKind} (h : kind ∈ j.mode.classKinds) :
    j.planClassEntry templates c (j.classSheet c) kind = .ok (j.classEntry c kind) := by
  have hfit := List.all_eq_true.mp (fits_classKinds j.mode) kind h
  unfold planClassEntry classEntry
  split
  · rfl
  · rw [planClassFile, htemplates,
      renderByLine_eq_ok hfit (conforms_classSheet (j.classSheet c))]
    rfl

theorem gives_planClass (c : ClassDef) :
    Planning.Gives (j.planClass templates c) (j.mode.classKinds.map (j.classEntry c))
      ((j.classSheet c).unresolved.map (.unknownType c.name)) := by
  have hentries := Planning.Gives.mapM fun kind (h : kind ∈ j.mode.classKinds) =>
    Planning.gives_ok (j.planClassEntry_eq_ok htemplates c h)
  rw [List.flatMap_eq_nil_iff.mpr fun _ _ => rfl] at hentries
  rw [← List.append_nil ((j.classSheet c).unresolved.map _)]
  exact (Planning.gives_forM _).bind hentries

end Templates

theorem gives_planning (j : Job) : Planning.Gives j.planning j.fullPlan j.reports := by
  obtain ⟨templates, hmode, htemplates⟩ := ofMode_eq_ok j.mode
  have hproject := Planning.Gives.mapM fun kind (h : kind ∈ j.mode.projectKinds) =>
    Planning.gives_ok (j.planProjectFile_eq_ok htemplates h)
  rw [List.flatMap_eq_nil_iff.mpr fun _ _ => rfl] at hproject
  have hclasses := Planning.Gives.mapM fun c (_ : c ∈ j.model.classes) =>
    j.gives_planClass htemplates c
  rw [fullPlan, List.flatMap_def]
  exact (Planning.gives_ok hmode).bind (hproject.bind (hclasses.value _))

theorem planned_eq (j : Job) : j.planned = (.ok j.fullPlan, j.reports) := j.gives_planning []

theorem plan_eq_ok (j : Job) : j.plan = .ok j.fullPlan := congrArg Prod.fst j.planned_eq

theorem warnings_eq_reports (j : Job) : j.warnings = j.reports := congrArg Prod.snd j.planned_eq

end Job

end CrudStack
