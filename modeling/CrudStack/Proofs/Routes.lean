/-
# `CrudStack.Proofs.Routes` — backend and frontend agree on every route

A class is reached under one path segment.  The backend writes it into the mapping of the
controller; the frontend writes it into the address that the component calls, into the path of the
router entry and into the link of the shell.  The first two are filled from the sheet of the class,
the last two from the links of the project sheet, and all four stand in templates of their own.

Main statement: for every model, settings and project name both plans exist, and in all four places
stands the segment of the class, for the classes in the order of the model (`route_identity`).  The
same goes for the port that the controllers admit and the development server listens on.
-/
import CrudStack.Proofs.Links

namespace CrudStack

open Template

/-- The job that generates the backend. -/
abbrev backendJob (m : Model) (s : Settings) (project : String) : Job := ⟨m, s, .backend, project⟩

/-! ## The lines of a controller, a component and the bundler -/

/-- The line of a controller that maps a route. -/
def mappingLine (route : String) : String := "@RequestMapping(\"/" ++ route ++ "\")"

/-- The line of a controller that admits the origin of the frontend. -/
def originLine (port : String) : String :=
  "@CrossOrigin(origins = \"http://localhost:" ++ port ++ "\")"

/-- The line of a component with the address that it calls. -/
def resourceLine (route : String) : String :=
  "const RESOURCE_URL = `$\x7bAPI_BASE\x7d/" ++ route ++ "`;"

/-- The line of the bundler's configuration with the port. -/
def portLine (port : String) : String := "    port: " ++ port ++ ","

theorem picks_mapping : Picks "@RequestMapping(" Backend.controller
    [.line ["@RequestMapping(\"/", .slot "route_segment", "\")"]] := by
  decide +kernel

theorem picks_origin : Picks "@CrossOrigin(" Backend.controller
    [.line ["@CrossOrigin(origins = \"", .slot "frontend_origin", "\")"]] := by
  decide +kernel

theorem picks_resource : Picks "const RESOURCE_URL = " Frontend.component
    [.line ["const RESOURCE_URL = `$\x7bAPI_BASE\x7d/", .slot "route_segment", "`;"]] := by
  decide +kernel

theorem picks_port : Picks "    port: " Frontend.bundlerConfig
    [.line ["    port: ", .slot "dev_port", ","]] := by
  decide +kernel

section Places

variable (m : Model) (s : Settings) (project : String)

theorem slotText_class_route (j : Job) (c : ClassDef) :
    slotText (j.classSheet c).data "route_segment" = Naming.routeSegment c.name := rfl

theorem marked_mapping (c : ClassDef) :
    marked "@RequestMapping(" ((backendJob m s project).classLines c .controller) =
      [mappingLine (Naming.routeSegment c.name)] := by
  refine (marked_line rfl picks_mapping _).trans ?_
  unfold mappingLine
  simp [fill, slotText_class_route, String.append_assoc]

theorem marked_origin (c : ClassDef) :
    marked "@CrossOrigin(" ((backendJob m s project).classLines c .controller) =
      [originLine (toString s.frontend.devPort.toNat)] := by
  have horigin : slotText ((backendJob m s project).classSheet c).data "frontend_origin" =
      "http://localhost:" ++ toString s.frontend.devPort.toNat := rfl
  refine (marked_line rfl picks_origin _).trans ?_
  unfold originLine
  simp [fill, horigin, ← String.append_assoc]

theorem marked_resource (c : ClassDef) :
    marked "const RESOURCE_URL = " ((frontendJob m s project).classLines c .component) =
      [resourceLine (Naming.routeSegment c.name)] := by
  refine (marked_line rfl picks_resource _).trans ?_
  unfold resourceLine
  simp [fill, slotText_class_route, String.append_assoc]

theorem marked_port :
    marked "    port: " ((frontendJob m s project).projectLines .bundlerConfig) =
      [portLine (toString s.frontend.devPort.toNat)] := by
  have hport : slotText (frontendJob m s project).projectSheet.data "dev_port" =
      toString s.frontend.devPort.toNat := rfl
  refine (marked_line rfl picks_port _).trans ?_
  unfold portLine
  simp [fill, hport, String.append_assoc]

end Places

/-! ## Both plans side by side -/

/-- A text is made of lines, and those that begin with a marker are the ones given. -/
def Shows (content : String) (lines : List String) (marker : String) (found : List String) :
    Prop :=
  content = joinLines lines ∧ marked marker lines = found

theorem shows_classFile {j : Job} {c : ClassDef} {kind : ArtifactKind} {marker : String}
    {found : List String} (h : marked marker (j.classLines c kind) = found) :
    Shows (j.classFile c kind).content (j.classLines c kind) marker found :=
  ⟨rfl, h⟩

theorem shows_projectFile {j : Job} {kind : ArtifactKind} {marker : String}
    {found : List String} (h : marked marker (j.projectLines kind) = found) :
    Shows (j.projectFile kind).content (j.projectLines kind) marker found :=
  ⟨rfl, h⟩

/-- What the plans of backend and frontend say about routes and port: which files there are, and
which of their lines carry a route or the port. -/
structure RoutesAgree (m : Model) (s : Settings) (project : String) (back front : Plan) :
    Prop where
  controllers : back.filesOf .controller =
    m.classes.map fun c => (backendJob m s project).classFile c .controller
  components : front.filesOf .component =
    m.shown.map fun c => (frontendJob m s project).classFile c .component
  routerFile : front.filesOf .router = [(frontendJob m s project).projectFile .router]
  shellFile : front.filesOf .shell = [(frontendJob m s project).projectFile .shell]
  bundlerFile : front.filesOf .bundlerConfig =
    [(frontendJob m s project).projectFile .bundlerConfig]
  /-- A controller maps the segment of its class and nothing else. -/
  mapping : ∀ c, Shows ((backendJob m s project).classFile c .controller).content
    ((backendJob m s project).classLines c .controller) "@RequestMapping("
    [mappingLine (Naming.routeSegment c.name)]
  /-- A component calls the segment of its class and nothing else. -/
  resource : ∀ c, Shows ((frontendJob m s project).classFile c .component).content
    ((frontendJob m s project).classLines c .component) "const RESOURCE_URL = "
    [resourceLine (Naming.routeSegment c.name)]
  /-- The paths of the router are the segments of the classes that are shown, in order. -/
  paths : Shows ((frontendJob m s project).projectFile .router).content
    ((frontendJob m s project).projectLines .router) "    path: "
    (m.shown.map fun c => pathLine (Naming.routeSegment c.name))
  /-- Each path stands in the entry that names its class. -/
  entries : (frontendJob m s project).projectLines .router =
    routerHead ++ m.shown.flatMap routerEntry ++ routerTail
  /-- The links of the shell lead to the segments of the classes that are shown, in order. -/
  links : Shows ((frontendJob m s project).projectFile .shell).content
    ((frontendJob m s project).projectLines .shell) "      <router-link " (m.shown.map linkLine)
  /-- Every controller admits the port of the settings. -/
  origin : ∀ c, Shows ((backendJob m s project).classFile c .controller).content
    ((backendJob m s project).classLines c .controller) "@CrossOrigin("
    [originLine (toString s.frontend.devPort.toNat)]
  /-- The development server listens on that port. -/
  port : Shows ((frontendJob m s project).projectFile .bundlerConfig).content
    ((frontendJob m s project).projectLines .bundlerConfig) "    port: "
    [portLine (toString s.frontend.devPort.toNat)]

/-- A backend skips nothing. -/
theorem skips_backend (c : ClassDef) {kind : ArtifactKind} (h : kind ∈ Mode.backend.classKinds) :
    Job.skips c kind = false := by
  have hkind : ∀ kind ∈ Mode.backend.classKinds, kind ≠ .component := by decide
  simp [Job.skips, hkind kind h]

/-- The files of a kind in a backend, in the order of the classes. -/
theorem filesOf_backend (m : Model) (s : Settings) (project : String) {kind : ArtifactKind}
    (h : kind ∈ Mode.backend.classKinds) :
    (backendJob m s project).fullPlan.filesOf kind =
      m.classes.map fun c => (backendJob m s project).classFile c kind := by
  rw [Job.filesOf_classKind _ h]
  simp only [skips_backend _ h, Bool.not_false, List.filter_true]

/-- Backend and frontend agree on the route of every class and on the port, for every model,
whatever its classes are called, and for all settings and project names. -/
theorem route_identity (m : Model) (s : Settings) (project : String) :
    ∃ back front, (backendJob m s project).plan = .ok back ∧
      (frontendJob m s project).plan = .ok front ∧ RoutesAgree m s project back front := by
  refine ⟨_, _, Job.plan_eq_ok _, Job.plan_eq_ok _, ?_⟩
  exact
    { controllers := filesOf_backend m s project (by decide)
      components := filesOf_component m s project
      routerFile := filesOf_frontend m s project (by decide)
      shellFile := filesOf_frontend m s project (by decide)
      bundlerFile := filesOf_frontend m s project (by decide)
      mapping := fun c => shows_classFile (marked_mapping m s project c)
      resource := fun c => shows_classFile (marked_resource m s project c)
      paths := shows_projectFile (marked_path m s project)
      entries := router_lines m s project
      links := shows_projectFile (marked_link m s project)
      origin := fun c => shows_classFile (marked_origin m s project c)
      port := shows_projectFile (marked_port m s project) }

end CrudStack
