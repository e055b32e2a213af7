/-
# `CrudStack.Template.Catalog` — which template belongs to which artifact

Each mode has a template for exactly the kinds that it emits.  The templates of a mode are compiled
together, before the first of them is rendered.
-/
import CrudStack.Artifact
import CrudStack.Template.Backend
import CrudStack.Template.Compiled
import CrudStack.Template.Frontend

namespace CrudStack.Template

/-- The template of a kind in a mode. -/
def ofKind? : Mode → ArtifactKind → Option Template
  | .backend, .buildDescriptor => some Backend.buildDescriptor
  | .backend, .runtimeConfig => some Backend.runtimeConfig
  | .backend, .entryPoint => some Backend.entryPoint
  | .backend, .notFoundError => some Backend.notFoundError
  | .backend, .entity => some Backend.entity
  | .backend, .repository => some Backend.repository
  | .backend, .service => some Backend.service
  | .backend, .controller => some Backend.controller
  | .frontend, .buildDescriptor => some Frontend.buildDescriptor
  | .frontend, .hostPage => some Frontend.hostPage
  | .frontend, .bundlerConfig => some Frontend.bundlerConfig
  | .frontend, .runtimeConfig => some Frontend.runtimeConfig
  | .frontend, .shell => some Frontend.shell
  | .frontend, .bootstrap => some Frontend.bootstrap
  | .frontend, .router => some Frontend.router
  | .frontend, .component => some Frontend.component
  | _, _ => none

/-- The title of a template, for messages. -/
def title (mode : Mode) (kind : ArtifactKind) : String := mode.label ++ "/" ++ kind.label

/-- Why an artifact cannot be planned. -/
inductive RenderError where
  | noTemplate (mode : Mode) (kind : ArtifactKind)
  | noFileName (mode : Mode) (kind : ArtifactKind)
  | malformed (mode : Mode) (kind : ArtifactKind) (reason : Malformed)
  | fault (mode : Mode) (kind : ArtifactKind) (fault : Fault)
  deriving DecidableEq, Repr

/-- The message of an error. -/
def RenderError.message : RenderError → String
  | noTemplate mode kind =>
    "Configuration error: no " ++ kind.label ++ " template for " ++ mode.label ++ " generation"
  | noFileName mode kind =>
    "Configuration error: " ++ kind.label ++ " is not a fixed " ++ mode.label ++ " file"
  | malformed mode kind reason => "Template error: " ++ reason.text (title mode kind)
  | fault mode kind f => "Render error: " ++ f.text (title mode kind)

/-! ## Registered templates -/

/-- The compiled templates of a mode. -/
structure Registry where
  mode : Mode
  templates : List (ArtifactKind × Compiled)
  deriving Repr

/-- The kinds of a mode with their templates. -/
def sources (mode : Mode) : List (ArtifactKind × Template) :=
  (mode.projectKinds ++ mode.classKinds).filterMap fun kind =>
    (ofKind? mode kind).map fun t => (kind, t)

/-- Compiles a template from its text. -/
def register (mode : Mode) (entry : ArtifactKind × Template) :
    Except RenderError (ArtifactKind × Compiled) :=
  match Compiled.ofText entry.2.source with
  | .error reason => .error (.malformed mode entry.1 reason)
  | .ok compiled => .ok (entry.1, compiled)

/-- Compiles all templates of a mode. -/
def Registry.ofMode (mode : Mode) : Except RenderError Registry := do
  return ⟨mode, ← (sources mode).mapM (register mode)⟩

/-- The text of an artifact for data. -/
def Registry.render (r : Registry) (kind : ArtifactKind) (data : Document) :
    Except RenderError String :=
  match r.templates.lookup kind with
  | none => .error (.noTemplate r.mode kind)
  | some compiled => (compiled.render data).mapError (.fault r.mode kind)

/-- The text of an artifact for data, from templates that are compiled for it. -/
def renderKind (mode : Mode) (kind : ArtifactKind) (data : Document) :
    Except RenderError String := do
  (← Registry.ofMode mode).render kind data

end CrudStack.Template
