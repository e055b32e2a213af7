/-
# `CrudStack.Proofs.Plan.Influence` — how far the features of a class reach

A class sheet carries everything that is known of a class: what follows from its name, its fields,
its methods, the imports of all types that it mentions.  Each of the templates that are filled with
it asks for a part only.  Repository, service and controller ask for what follows from the name
(`nameKeys`); the component asks for the fields besides (`fieldKeys`); the methods and the imports
are asked for by the entity alone.  The files that a backend has once never ask for the links of the
project sheet (`projectKeys`).

So features are confined (`features_confined`).  A backend without its entities is that of the same
class names without any features (`besidesEntities_withoutFeatures`), and a frontend is that of the
same classes without their methods (`fullPlan_withoutMethods`).
-/
import CrudStack.Proofs.Routes
import CrudStack.Proofs.Sheet.Mentioned
import CrudStack.Proofs.Sheet.Noted
import CrudStack.Proofs.Template.Asked

namespace CrudStack

open Template

/-! ## Models with less in them -/

/-- The class without its methods. -/
def ClassDef.withoutMethods (c : ClassDef) : ClassDef := ⟨c.name, c.attributes.map .attr⟩

/-- The class without attributes and methods. -/
def ClassDef.withoutFeatures (c : ClassDef) : ClassDef := ⟨c.name, []⟩

/-- The model without methods. -/
def Model.withoutMethods (m : Model) : Model := ⟨m.classes.map ClassDef.withoutMethods⟩

/-- The model without attributes and methods: the names of its classes. -/
def Model.withoutFeatures (m : Model) : Model := ⟨m.classes.map ClassDef.withoutFeatures⟩

@[simp] theorem attributes_withoutMethods (c : ClassDef) :
    c.withoutMethods.attributes = c.attributes := by
  simp [ClassDef.withoutMethods, ClassDef.attributes, List.filterMap_filterMap]

@[simp] theorem hasAttributes_withoutMethods (c : ClassDef) :
    c.withoutMethods.hasAttributes = c.hasAttributes := by
  rw [ClassDef.hasAttributes, attributes_withoutMethods, ClassDef.hasAttributes]

@[simp] theorem hasClass_withoutMethods (m : Model) :
    m.withoutMethods.hasClass = m.hasClass := by
  funext name
  rw [Model.hasClass, Model.withoutMethods, List.any_map]
  rfl

theorem withoutFeatures_congr {m m' : Model}
    (h : m.classes.map (·.name) = m'.classes.map (·.name)) :
    m.withoutFeatures = m'.withoutFeatures := by
  have hnames : ∀ m : Model, m.withoutFeatures =
      ⟨(m.classes.map (·.name)).map fun name => ⟨name, []⟩⟩ := by
    intro m
    rw [List.map_map]
    rfl
  rw [hnames, hnames m', h]

theorem withoutMethods_congr {m m' : Model}
    (h : m.classes.map (·.name) = m'.classes.map (·.name))
    (h' : m.classes.map ClassDef.attributes = m'.classes.map ClassDef.attributes) :
    m.withoutMethods = m'.withoutMethods := by
  have hparts : ∀ m : Model, m.withoutMethods =
      ⟨((m.classes.map (·.name)).zip (m.classes.map ClassDef.attributes)).map fun part =>
        ⟨part.1, part.2.map .attr⟩⟩ := by
    intro m
    rw [List.zip_map', List.map_map]
    rfl
  rw [hparts, hparts m', h, h']

/-! ## What the templates ask for -/

/-- The names under which a class sheet says what follows from the name of the class. -/
def nameKeys : List String :=
  ["class_name", "variable", "route_segment", "plural_label", "table_name", "component_name",
   "base_package", "frontend_origin", "api_base_url"]

/-- The names under which a class sheet says what follows from the attributes alone. -/
def fieldKeys : List String := ["fields", "empty_form"]

/-- The names of a project sheet, but for the links to the classes. -/
def projectKeys : List String :=
  ["project_name", "artifact_id", "group_id", "base_package", "application_class",
   "java_version", "spring_boot_version", "server_port", "is_postgres", "datasource_url",
   "datasource_driver", "datasource_username", "datasource_password", "api_base_url",
   "dev_port", "frontend_origin", "title"]

/-- Whether the template of a kind asks for nothing but some names. -/
def Template.asksOnly (names : List String) (mode : Mode) (kind : ArtifactKind) : Bool :=
  match ofKind? mode kind with
  | some t => t.asked.all fun name => names.contains name
  | none => true

theorem Template.linesOf_congr {names : List String} {mode : Mode} {kind : ArtifactKind}
    (h : asksOnly names mode kind = true) {d d' : Document} (hagree : AgreeOn names d d') :
    linesOf mode kind d = linesOf mode kind d' := by
  unfold asksOnly at h
  unfold linesOf
  cases ht : ofKind? mode kind with
  | none => rfl
  | some t =>
      rw [ht] at h
      have hsub : t.asked ⊆ names := fun name hname => by
        simpa using List.all_eq_true.mp h name hname
      exact expand_congr (hagree.mono hsub)

/-- The files of a class that its features do not reach. -/
def nameKinds : List ArtifactKind := [.repository, .service, .controller]

theorem asksOnly_nameKinds : nameKinds.all (asksOnly nameKeys .backend) = true := by
  decide +kernel

theorem asksOnly_component : asksOnly (nameKeys ++ fieldKeys) .frontend .component = true := by
  decide +kernel

theorem asksOnly_projectKinds :
    Mode.backend.projectKinds.all (asksOnly projectKeys .backend) = true := by
  decide +kernel

section Sheets

variable (m m' : Model) (s : Settings) (project : String)

/-- What a class sheet has under the names.  This is about any sheet, because to look them up in the
sheets of two classes would be to compare the features of the classes. -/
theorem ClassSheet.entries_nameKeys (sheet : ClassSheet) :
    nameKeys.map (entryAt sheet.data) =
      ([sheet.className, sheet.variableName, sheet.routeSegment, sheet.pluralLabel,
        sheet.tableName, sheet.componentName, sheet.basePackage, sheet.frontendOrigin,
        sheet.apiBaseUrl].map fun text => some (.text text)) := rfl

theorem ClassSheet.entries_fieldKeys (sheet : ClassSheet) :
    fieldKeys.map (entryAt sheet.data) =
      [some (.list (sheet.fields.map FieldSheet.data)), some (.text sheet.emptyForm)] := rfl

theorem agreeOn_nameKeys {c c' : ClassDef} (h : c.name = c'.name) :
    AgreeOn nameKeys (ClassSheet.make m s project c).data
      (ClassSheet.make m' s project c').data := by
  refine agreeOn_of_entries (by decide) ?_
  simp only [ClassSheet.entries_nameKeys, ClassSheet.make_eq, h]

theorem agreeOn_projectKeys :
    AgreeOn projectKeys (ProjectSheet.make m s project).data
      (ProjectSheet.make m' s project).data :=
  agreeOn_of_entries (by decide) rfl

theorem fields_withoutMethods (c : ClassDef) :
    (ClassSheet.make m.withoutMethods s project c.withoutMethods).fields =
      (ClassSheet.make m s project c).fields := by
  have hslot : FieldSheet.ofSlot m.withoutMethods = FieldSheet.ofSlot m := by
    funext a
    exact fieldSheet_congr (congrFun (hasClass_withoutMethods m) a.typeName)
  rw [fields_make, fields_make, attributes_withoutMethods, hslot]

theorem agreeOn_withoutMethods (c : ClassDef) :
    AgreeOn (nameKeys ++ fieldKeys) (ClassSheet.make m s project c).data
      (ClassSheet.make m.withoutMethods s project c.withoutMethods).data := by
  have hfields := fields_withoutMethods m s project c
  have hname : c.name = c.withoutMethods.name := rfl
  refine (agreeOn_nameKeys m m.withoutMethods s project hname).append
    (agreeOn_of_entries (by decide) ?_)
  rw [ClassSheet.entries_fieldKeys, ClassSheet.entries_fieldKeys, emptyForm_make, emptyForm_make,
    hfields]

end Sheets

/-! ## The backend without its entities -/

/-- The files of a plan other than the entities. -/
def Plan.besidesEntities (p : Plan) : List PlannedFile :=
  p.files.filter fun f => f.kind != .entity

section Backend

variable (m m' : Model) (s : Settings) (project : String)

theorem besidesEntities_fullPlan :
    (backendJob m s project).fullPlan.besidesEntities =
      Mode.backend.projectKinds.map (backendJob m s project).projectFile ++
        m.classes.flatMap fun c => nameKinds.map ((backendJob m s project).classFile c) := by
  rw [Plan.besidesEntities, Job.files_fullPlan, List.filter_append, List.filter_flatMap]
  rfl

theorem projectFile_backend {kind : ArtifactKind} (h : kind ∈ Mode.backend.projectKinds) :
    (backendJob m s project).projectFile kind = (backendJob m' s project).projectFile kind := by
  have hlines : (backendJob m s project).projectLines kind =
      (backendJob m' s project).projectLines kind :=
    linesOf_congr (List.all_eq_true.mp asksOnly_projectKinds kind h)
      (agreeOn_projectKeys m m' s project)
  unfold Job.projectFile
  rw [hlines]
  rfl

theorem classFile_backend {c c' : ClassDef} (hname : c.name = c'.name) {kind : ArtifactKind}
    (h : kind ∈ nameKinds) :
    (backendJob m s project).classFile c kind = (backendJob m' s project).classFile c' kind := by
  have hlines : (backendJob m s project).classLines c kind =
      (backendJob m' s project).classLines c' kind :=
    linesOf_congr (List.all_eq_true.mp asksOnly_nameKinds kind h)
      (agreeOn_nameKeys m m' s project hname)
  unfold Job.classFile
  rw [hlines, hname]
  rfl

/-- Without its entities a backend is that of the names of its classes. -/
theorem besidesEntities_withoutFeatures :
    (backendJob m s project).fullPlan.besidesEntities =
      (backendJob m.withoutFeatures s project).fullPlan.besidesEntities := by
  have hproject : Mode.backend.projectKinds.map (backendJob m s project).projectFile =
      Mode.backend.projectKinds.map (backendJob m.withoutFeatures s project).projectFile :=
    List.map_congr_left fun kind hkind => projectFile_backend m _ s project hkind
  have hclass : ∀ c : ClassDef, nameKinds.map ((backendJob m s project).classFile c) =
      nameKinds.map ((backendJob m.withoutFeatures s project).classFile c.withoutFeatures) := by
    intro c
    have hname : c.name = c.withoutFeatures.name := rfl
    exact List.map_congr_left fun kind hkind => classFile_backend m _ s project hname hkind
  rw [besidesEntities_fullPlan, besidesEntities_fullPlan, hproject, Model.withoutFeatures,
    List.flatMap_map]
  simp only [hclass]
  rfl

end Backend

/-! ## The frontend without methods -/

section Frontend

variable (m : Model) (s : Settings) (project : String)

theorem projectSheet_withoutMethods :
    ProjectSheet.make m.withoutMethods s project = ProjectSheet.make m s project := by
  have hattributes : ClassDef.hasAttributes ∘ ClassDef.withoutMethods = ClassDef.hasAttributes :=
    funext hasAttributes_withoutMethods
  have hlinks : (m.withoutMethods.classes.filter ClassDef.hasAttributes).map LinkEntry.ofClass =
      (m.classes.filter ClassDef.hasAttributes).map LinkEntry.ofClass := by
    rw [Model.withoutMethods, List.filter_map, List.map_map, hattributes]
    rfl
  unfold ProjectSheet.make
  rw [hlinks]

theorem classEntry_withoutMethods (c : ClassDef) :
    (frontendJob m.withoutMethods s project).classEntry c.withoutMethods .component =
      (frontendJob m s project).classEntry c .component := by
  have hlines : (frontendJob m s project).classLines c .component =
      (frontendJob m.withoutMethods s project).classLines c.withoutMethods .component :=
    linesOf_congr asksOnly_component (agreeOn_withoutMethods m s project c)
  have hfile : (frontendJob m.withoutMethods s project).classFile c.withoutMethods .component =
      (frontendJob m s project).classFile c .component := by
    unfold Job.classFile
    rw [← hlines]
    rfl
  unfold Job.classEntry
  rw [skips_component, skips_component, hasAttributes_withoutMethods, hfile]
  rfl

/-- The methods of a model do not reach its frontend. -/
theorem fullPlan_withoutMethods :
    (frontendJob m.withoutMethods s project).fullPlan = (frontendJob m s project).fullPlan := by
  have hproject : ∀ kind, (frontendJob m.withoutMethods s project).projectFile kind =
      (frontendJob m s project).projectFile kind := by
    intro kind
    unfold Job.projectFile Job.projectLines Job.projectSheet
    rw [projectSheet_withoutMethods]
    rfl
  have hclass : ∀ c : ClassDef, Mode.frontend.classKinds.map
      ((frontendJob m.withoutMethods s project).classEntry c.withoutMethods) =
        Mode.frontend.classKinds.map ((frontendJob m s project).classEntry c) := fun c =>
    congrArg (fun entry => [entry]) (classEntry_withoutMethods m s project c)
  have hclasses : m.withoutMethods.classes = m.classes.map ClassDef.withoutMethods := rfl
  simp only [Job.fullPlan, hproject, hclasses, List.flatMap_map, hclass]

end Frontend

/-- Features do not leak.  Two models with the same class names in the same order have the same
backend but for the entities, file by file with path and content.  If corresponding classes have the
same attributes too, so that they differ in methods at most, the frontends are the same. -/
theorem features_confined (s : Settings) (project : String) {m m' : Model}
    (hnames : m.classes.map (·.name) = m'.classes.map (·.name)) :
    (∃ p p', (backendJob m s project).plan = .ok p ∧ (backendJob m' s project).plan = .ok p' ∧
      p.besidesEntities = p'.besidesEntities) ∧
    (m.classes.map ClassDef.attributes = m'.classes.map ClassDef.attributes →
      ∃ p, (frontendJob m s project).plan = .ok p ∧ (frontendJob m' s project).plan = .ok p) := by
  refine ⟨⟨_, _, Job.plan_eq_ok _, Job.plan_eq_ok _, ?_⟩, fun hattributes => ?_⟩
  · rw [besidesEntities_withoutFeatures, withoutFeatures_congr hnames,
      ← besidesEntities_withoutFeatures]
  · refine ⟨_, Job.plan_eq_ok _, ?_⟩
    rw [Job.plan_eq_ok, ← fullPlan_withoutMethods m, withoutMethods_congr hnames hattributes,
      fullPlan_withoutMethods]

/-- A library whose books can be lent. -/
def lendingModel : Model :=
  ⟨[⟨"Book", [.attr ⟨"title", "text"⟩, .method ⟨"lend", "date", [⟨"to", "Reader"⟩]⟩]⟩,
    ⟨"Reader", []⟩]⟩

/-- The same library without the lending. -/
def shelfModel : Model := ⟨[⟨"Book", [.attr ⟨"title", "text"⟩]⟩, ⟨"Reader", []⟩]⟩

theorem confined_lending :
    (∃ p p', (backendJob lendingModel {} "lib").plan = .ok p ∧
      (backendJob shelfModel {} "lib").plan = .ok p' ∧ p.besidesEntities = p'.besidesEntities) ∧
    ∃ p, (frontendJob lendingModel {} "lib").plan = .ok p ∧
      (frontendJob shelfModel {} "lib").plan = .ok p := by
  have hnames : lendingModel.classes.map (·.name) = shelfModel.classes.map (·.name) := rfl
  obtain ⟨hbackend, hfrontend⟩ := features_confined {} "lib" hnames
  exact ⟨hbackend, hfrontend rfl⟩

end CrudStack
