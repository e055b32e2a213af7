/-
# `CrudStack.Plan` — everything that a generation will write

A job is a model with settings, a mode and a project name.  Its plan lists all files with their
contents and all classes that get none, before anything is written: first the files that the project
has once, then class by class.  A class without attributes gets no component; the plan says so in
its place.  While a class is planned, its type names that nothing explains are reported.
-/
import CrudStack.Event
import CrudStack.Layout
import CrudStack.Sheet
import CrudStack.Template.Catalog

namespace CrudStack

/-- What to generate. -/
structure Job where
  model : Model
  settings : Settings
  mode : Mode
  project : String
  deriving DecidableEq, Repr

/-- A file to write; its path starts at the root of the project. -/
structure PlannedFile where
  kind : ArtifactKind
  className : Option String
  path : Path
  content : String
  description : String
  deriving DecidableEq, Repr

/-- A file that a class does not get. -/
structure PlannedSkip where
  kind : ArtifactKind
  className : String
  path : Path
  reason : String
  deriving DecidableEq, Repr

/-- A step of a plan. -/
inductive PlanEntry where
  | file (file : PlannedFile)
  | skip (skip : PlannedSkip)
  deriving DecidableEq, Repr

/-- The steps of a generation, in order. -/
structure Plan where
  entries : List PlanEntry
  deriving DecidableEq, Repr

namespace Plan

/-- The files of a plan. -/
def files (p : Plan) : List PlannedFile :=
  p.entries.filterMap fun
    | .file f => some f
    | .skip _ => none

/-- The skips of a plan. -/
def skips (p : Plan) : List PlannedSkip :=
  p.entries.filterMap fun
    | .file _ => none
    | .skip s => some s

end Plan

namespace Job

/-- The layout of the project below a destination. -/
def layout (j : Job) (destination : Path) : Layout :=
  match j.mode with
  | .backend => .backend destination j.project (j.settings.basePackage j.project)
  | .frontend => .frontend destination j.project

/-- The sheet of the project. -/
def projectSheet (j : Job) : ProjectSheet := .make j.model j.settings j.project

/-- The sheet of a class. -/
def classSheet (j : Job) (c : ClassDef) : ClassSheet := .make j.model j.settings j.project c

/-! ## File names -/

/-- The name of a file that the project has once, if the mode has one of that kind. -/
def projectFileName? (j : Job) (kind : ArtifactKind) : Option String :=
  match j.mode, kind with
  | .backend, .entryPoint => some (Naming.applicationClass j.project ++ ".java")
  | .backend, .buildDescriptor => some "pom.xml"
  | .backend, .runtimeConfig => some "application.properties"
  | .backend, .notFoundError => some "ResourceNotFoundException.java"
  | .frontend, .buildDescriptor => some "package.json"
  | .frontend, .runtimeConfig => some ".env"
  | .frontend, .hostPage => some "index.html"
  | .frontend, .bundlerConfig => some "vite.config.js"
  | .frontend, .shell => some "App.vue"
  | .frontend, .bootstrap => some "main.js"
  | .frontend, .router => some "router.js"
  | _, _ => none

/-- The name of a file of a class. -/
def classFileName (className : String) : ArtifactKind → String
  | .repository => className ++ "Repository.java"
  | .service => className ++ "Service.java"
  | .controller => className ++ "Controller.java"
  | .component => Naming.componentName className ++ ".vue"
  | _ => className ++ ".java"

/-- The path of a file from the root of the project. -/
def relativePath (j : Job) (kind : ArtifactKind) (fileName : String) : Path :=
  (j.layout ⟨""⟩).locate (kind.role j.mode) fileName

end Job

/-! ## Planning -/

/-- A part of planning reports while it goes on, and it may fail; what it reported stays
reported. -/
abbrev Planning := ExceptT Template.RenderError (StateM (List Event))

/-- Reports an event. -/
def Planning.report (e : Event) : Planning Unit := modify fun events => events ++ [e]

namespace Job

/-- Plans a file that the project has once. -/
def planProjectFile (j : Job) (templates : Template.Registry) (kind : ArtifactKind) :
    Except Template.RenderError PlanEntry := do
  let fileName ←
    match j.projectFileName? kind with
    | some name => .ok name
    | none => .error (.noFileName j.mode kind)
  let content ← templates.render kind j.projectSheet.data
  return .file
    { kind
      className := none
      path := j.relativePath kind fileName
      content
      description := j.mode.label ++ " " ++ kind.label }

/-- Plans a file of a class. -/
def planClassFile (j : Job) (templates : Template.Registry) (c : ClassDef) (sheet : ClassSheet)
    (kind : ArtifactKind) : Except Template.RenderError PlanEntry := do
  let content ← templates.render kind sheet.data
  return .file
    { kind
      className := some c.name
      path := j.relativePath kind (classFileName c.name kind)
      content
      description := c.name ++ " " ++ kind.label }

/-- Whether a class gets no file of a kind: a component needs attributes. -/
def skips (c : ClassDef) (kind : ArtifactKind) : Bool :=
  kind == .component && !c.hasAttributes

/-- Plans a file of a class, or its skip. -/
def planClassEntry (j : Job) (templates : Template.Registry) (c : ClassDef) (sheet : ClassSheet)
    (kind : ArtifactKind) : Except Template.RenderError PlanEntry :=
  if skips c kind then
    .ok <| .skip
      { kind
        className := c.name
        path := j.relativePath kind (classFileName c.name kind)
        reason := "class " ++ c.name ++ " declares no attributes" }
  else j.planClassFile templates c sheet kind

/-- Makes the sheet of a class, warns of the type names that nothing explains, and plans the
files. -/
def planClass (j : Job) (templates : Template.Registry) (c : ClassDef) :
    Planning (List PlanEntry) := do
  let sheet := j.classSheet c
  sheet.unresolved.forM fun typeName => Planning.report (.unknownType c.name typeName)
  j.mode.classKinds.mapM fun kind => liftExcept (j.planClassEntry templates c sheet kind)

/-- Plans the whole generation. -/
def planning (j : Job) : Planning Plan := do
  let templates ← liftExcept (Template.Registry.ofMode j.mode)
  let project ← j.mode.projectKinds.mapM fun kind =>
    liftExcept (j.planProjectFile templates kind)
  let classes ← j.model.classes.mapM (j.planClass templates)
  return ⟨project ++ classes.flatten⟩

/-- The plan of a generation or why there is none, and what was reported on the way. -/
def planned (j : Job) : Except Template.RenderError Plan × List Event := j.planning.run.run []

/-- The plan of a generation, or why there is none. -/
def plan (j : Job) : Except Template.RenderError Plan := j.planned.1

/-- What planning reported: the type names that nothing explains, class by class. -/
def warnings (j : Job) : List Event := j.planned.2

end Job

end CrudStack
